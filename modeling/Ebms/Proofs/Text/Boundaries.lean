import Ebms.Proofs.Text.Encoding

/-! # Where characters start

The encoding of a character starts with a byte that no other byte of an encoding can be
mistaken for.  So bytes that are cut where a character starts are the encoding of a text
exactly when both parts are, and the text is cut in the same place. -/

set_option autoImplicit false

namespace Ebms.Bytes

def isContinuation (byte : UInt8) : Bool := 0x80 ≤ byte.toNat && byte.toNat < 0xC0

/-- The bytes do not start inside a character. -/
def StartsCharacter (bytes : Bytes) : Prop := ∀ byte ∈ bytes.head?, isContinuation byte = false

theorem isContinuation_ofNat {value : Nat} (low : 0x80 ≤ value) (high : value < 0xC0) :
    isContinuation (UInt8.ofNat value) = true := by
  have same : (UInt8.ofNat value).toNat = value := by
    rw [UInt8.toNat_ofNat', Nat.mod_eq_of_lt (by omega)]
  simp [isContinuation, same, low, high]

theorem isContinuation_ofNat_of_ge {value : Nat} (low : 0xC0 ≤ value) (high : value < 0x100) :
    isContinuation (UInt8.ofNat value) = false := by
  have same : (UInt8.ofNat value).toNat = value := by
    rw [UInt8.toNat_ofNat', Nat.mod_eq_of_lt (by omega)]
  simp [isContinuation, same]
  omega

theorem isContinuation_of_ascii {byte : UInt8} (ascii : byte.toNat < 0x80) :
    isContinuation byte = false := by
  simp [isContinuation]
  omega

theorem exists_utf8EncodeChar (c : Char) :
    ∃ first others, String.utf8EncodeChar c = first :: others ∧ isContinuation first = false ∧
      ∀ byte ∈ others, isContinuation byte = true := by
  simp only [String.utf8EncodeChar]
  split
  case isTrue short =>
    refine ⟨_, _, rfl, isContinuation_of_ascii ?_, ?_⟩
    · rw [UInt8.toNat_ofNat', Nat.mod_eq_of_lt (by omega)]
      omega
    · intro byte member
      cases member
  case isFalse =>
    have tail (value : Nat) : isContinuation (UInt8.ofNat (value % 64 + 128)) = true :=
      isContinuation_ofNat (by omega) (by omega)
    split
    case isTrue =>
      refine ⟨_, _, rfl, isContinuation_ofNat_of_ge (by omega) (by omega), ?_⟩
      exact List.forall_mem_singleton.mpr (tail _)
    case isFalse =>
      split
      case isTrue =>
        refine ⟨_, _, rfl, isContinuation_ofNat_of_ge (by omega) (by omega), ?_⟩
        exact List.forall_mem_cons.mpr ⟨tail _, List.forall_mem_singleton.mpr (tail _)⟩
      case isFalse =>
        refine ⟨_, _, rfl, isContinuation_ofNat_of_ge (by omega) (by omega), ?_⟩
        exact List.forall_mem_cons.mpr
          ⟨tail _, List.forall_mem_cons.mpr ⟨tail _, List.forall_mem_singleton.mpr (tail _)⟩⟩

theorem startsCharacter_nil : StartsCharacter [] := by
  intro byte member
  cases member

theorem startsCharacter_utf8EncodeChar_append (c : Char) (rest : Bytes) :
    StartsCharacter (String.utf8EncodeChar c ++ rest) := by
  obtain ⟨first, others, shape, starts, -⟩ := exists_utf8EncodeChar c
  intro byte member
  rw [shape, List.cons_append, List.head?_cons] at member
  cases member
  exact starts

/-- Encoded characters that are cut where one of them starts are cut between two of them. -/
theorem exists_split_of_flatMap {chars : List Char} {front back : Bytes}
    (cut : chars.flatMap String.utf8EncodeChar = front ++ back) (starts : StartsCharacter back) :
    ∃ before after, chars = before ++ after ∧ before.flatMap String.utf8EncodeChar = front ∧
      after.flatMap String.utf8EncodeChar = back := by
  induction chars generalizing front with
  | nil =>
      obtain ⟨rfl, rfl⟩ := List.append_eq_nil_iff.mp cut.symm
      exact ⟨[], [], rfl, rfl, rfl⟩
  | cons c rest inductionHypothesis =>
      cases front with
      | nil => exact ⟨[], c :: rest, rfl, rfl, cut⟩
      | cons head front =>
          obtain ⟨first, others, shape, -, goesOn⟩ := exists_utf8EncodeChar c
          rw [List.flatMap_cons, shape, List.cons_append, List.cons_append,
            List.cons.injEq] at cut
          obtain ⟨rfl, cut⟩ := cut
          rcases List.append_eq_append_iff.mp cut with ⟨later, rfl, cutLater⟩ | ⟨inner, rfl, rfl⟩
          · obtain ⟨before, after, rfl, encoded, left⟩ := inductionHypothesis cutLater
            refine ⟨c :: before, after, rfl, ?_, left⟩
            rw [List.flatMap_cons, shape, encoded, List.cons_append]
          · -- The cut is among the bytes that go on with this character, or right behind them.
            cases inner with
            | nil =>
                refine ⟨[c], rest, rfl, ?_, rfl⟩
                simpa using shape
            | cons byte inner =>
                have inside := goesOn byte (by simp)
                rw [starts byte (by simp)] at inside
                cases inside

/-- What two parts spell, cut where a character starts, is what each of them spells. -/
theorem exists_of_text?_append {front back : Bytes} {text : String}
    (read : text? (front ++ back) = some text) (starts : StartsCharacter back) :
    ∃ before after, text? front = some before ∧ text? back = some after ∧
      text = before ++ after := by
  have spelled := ofText_of_text? read
  rw [ofText_eq_flatMap] at spelled
  obtain ⟨before, after, chars, encodedFront, encodedBack⟩ := exists_split_of_flatMap spelled starts
  refine ⟨String.ofList before, String.ofList after, ?_, ?_, ?_⟩
  · rw [← encodedFront, ← ofText_ofList, text?_ofText]
  · rw [← encodedBack, ← ofText_ofList, text?_ofText]
  · rw [← String.ofList_append, ← chars, String.ofList_toList]

end Ebms.Bytes
