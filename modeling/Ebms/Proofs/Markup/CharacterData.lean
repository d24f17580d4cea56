import Ebms.Markup.Escape
import Ebms.Proofs.Text.Encoding

/-! # Written character data

Resolving the references of written character data gives the data back, whatever
bytes it has; and the written form has no bracket and no quotation mark, so that
it ends neither a tag nor an attribute. -/

set_option autoImplicit false

namespace Ebms.Markup

theorem unescapeFrom_escapeByte (byte : UInt8) (done rest : Bytes) :
    unescapeFrom none done (escapeByte byte ++ rest) =
      unescapeFrom none (byte :: done) rest := by
  by_cases named : byte ∈ [0x3C, 0x3E, 0x27, 0x26, 0x22]
  · simp only [List.mem_cons, List.not_mem_nil, or_false] at named
    rcases named with same | same | same | same | same <;> rw [same] <;> rfl
  · simp only [List.mem_cons, List.not_mem_nil, or_false, not_or] at named
    obtain ⟨noLess, noGreater, noApostrophe, noAmpersand, noQuote⟩ := named
    simp only [escapeByte, if_neg noLess, if_neg noGreater, if_neg noApostrophe,
      if_neg noAmpersand, if_neg noQuote, List.cons_append, List.nil_append, unescapeFrom]

theorem unescapeFrom_escape (text done rest : Bytes) :
    unescapeFrom none done (escape text ++ rest) =
      unescapeFrom none (text.reverse ++ done) rest := by
  induction text generalizing done with
  | nil => rfl
  | cons byte others inductionHypothesis =>
      have split : escape (byte :: others) = escapeByte byte ++ escape others :=
        List.flatMap_cons
      rw [split, List.append_assoc, unescapeFrom_escapeByte, inductionHypothesis,
        List.reverse_cons, List.append_assoc, List.singleton_append]

theorem unescape?_escape (text : Bytes) : unescape? (escape text) = some text := by
  have step := unescapeFrom_escape text [] []
  rw [List.append_nil, List.append_nil] at step
  rw [unescape?, step, unescapeFrom, List.reverse_reverse]

theorem text?_escape_ofText (text : String) :
    text? (escape (Bytes.ofText text)) = some text := by
  rw [text?, unescape?_escape, Option.bind_some, Bytes.text?_ofText]

theorem escape_injective {first second : Bytes} (same : escape first = escape second) :
    first = second := by
  apply Option.some.inj
  rw [← unescape?_escape first, same, unescape?_escape]

theorem not_mem_escape {mark : UInt8} (special : mark ∈ [0x3C, 0x3E, 0x27, 0x22])
    (text : Bytes) : mark ∉ escape text := by
  intro member
  obtain ⟨byte, -, inside⟩ := List.mem_flatMap.mp member
  by_cases named : byte ∈ [0x3C, 0x3E, 0x27, 0x26, 0x22]
  · have absent : ([0x3C, 0x3E, 0x27, 0x26, 0x22] : Bytes).all (fun byte =>
        ([0x3C, 0x3E, 0x27, 0x22] : Bytes).all fun mark => !(escapeByte byte).contains mark) =
          true := by decide
    have free := List.all_eq_true.mp (List.all_eq_true.mp absent byte named) mark special
    exact absurd inside (by simpa using free)
  · have same : mark = byte := by
      simp only [List.mem_cons, List.not_mem_nil, or_false, not_or] at named
      obtain ⟨noLess, noGreater, noApostrophe, noAmpersand, noQuote⟩ := named
      simpa [escapeByte, noLess, noGreater, noApostrophe, noAmpersand, noQuote] using inside
    have among : ([0x3C, 0x3E, 0x27, 0x22] : Bytes) ⊆ [0x3C, 0x3E, 0x27, 0x26, 0x22] := by
      simp
    exact named (same ▸ among special)

theorem escape_eq_nil_iff {text : Bytes} : escape text = [] ↔ text = [] := by
  constructor
  · intro empty
    exact escape_injective empty
  · intro empty
    rw [empty]
    rfl

end Ebms.Markup
