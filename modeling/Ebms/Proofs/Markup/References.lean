import Ebms.Proofs.Markup.CharacterData
import Ebms.Proofs.Text.Boundaries

/-! # Character data in two parts

Character data that is cut in two, neither inside a reference nor inside a character, says
what its two parts say one after the other. -/

set_option autoImplicit false

namespace Ebms.Markup

open Bytes (StartsCharacter)

/-- The cut between two parts of character data goes through a reference. -/
def CutsReference (front back : Bytes) : Prop :=
  ∃ before name rest after, front = before ++ 0x26 :: name ∧ back = rest ++ 0x3B :: after ∧
    (resolve? (name ++ rest)).isSome = true

variable {front back rest name pending done value result : Bytes}

theorem CutsReference.append_left (cuts : CutsReference front back) (before : Bytes) :
    CutsReference (before ++ front) back := by
  obtain ⟨start, name, rest, after, rfl, shape, resolved⟩ := cuts
  exact ⟨before ++ start, name, rest, after, (List.append_assoc _ _ _).symm, shape, resolved⟩

/-! ## What has been resolved stays -/

theorem unescapeFrom_done (pending : Option Bytes) (shown done input : Bytes) :
    unescapeFrom pending (shown ++ done) input =
      (unescapeFrom pending shown input).map (done.reverse ++ ·) := by
  induction input generalizing pending shown with
  | nil => cases pending <;> simp [unescapeFrom]
  | cons byte rest inductionHypothesis =>
      cases pending with
      | none =>
          rw [unescapeFrom, unescapeFrom]
          split
          · exact inductionHypothesis _ _
          · exact inductionHypothesis _ (byte :: shown)
      | some name =>
          rw [unescapeFrom, unescapeFrom]
          split
          · cases resolve? name.reverse with
            | none => rfl
            | some value =>
                dsimp only
                rw [← List.append_assoc]
                exact inductionHypothesis _ _
          · split
            · rfl
            · exact inductionHypothesis _ _

theorem unescapeFrom_none_eq (done input : Bytes) :
    unescapeFrom none done input = (unescape? input).map (done.reverse ++ ·) :=
  unescapeFrom_done none [] done input

/-! ## One reference at a time -/

theorem unescapeFrom_reference (noMark : 0x3B ∉ name ∧ 0x26 ∉ name)
    (resolved : resolve? (pending.reverse ++ name) = some value) (done rest : Bytes) :
    unescapeFrom (some pending) done (name ++ 0x3B :: rest) =
      unescapeFrom none (value.reverse ++ done) rest := by
  induction name generalizing pending with
  | nil =>
      rw [List.append_nil] at resolved
      rw [List.nil_append, unescapeFrom]
      simp only [if_true, resolved]
  | cons byte others inductionHypothesis =>
      obtain ⟨noEnd, noStart⟩ := noMark
      have different : byte ≠ 0x3B ∧ byte ≠ 0x26 := by
        constructor <;> rintro rfl
        · exact noEnd List.mem_cons_self
        · exact noStart List.mem_cons_self
      rw [List.cons_append, unescapeFrom]
      simp only [if_neg different.1, if_neg different.2]
      refine inductionHypothesis ⟨fun member => noEnd (List.mem_cons_of_mem _ member),
        fun member => noStart (List.mem_cons_of_mem _ member)⟩ ?_
      rwa [List.reverse_cons, List.append_assoc, List.singleton_append]

theorem exists_of_unescapeFrom_some {input : Bytes}
    (read : unescapeFrom (some pending) done input = some result) :
    ∃ name value rest, input = name ++ 0x3B :: rest ∧ (0x3B ∉ name ∧ 0x26 ∉ name) ∧
      resolve? (pending.reverse ++ name) = some value ∧
      unescapeFrom none (value.reverse ++ done) rest = some result := by
  induction input generalizing pending with
  | nil => cases read
  | cons byte others inductionHypothesis =>
      rw [unescapeFrom] at read
      split at read
      case isTrue ends =>
        split at read
        case h_1 value resolved =>
          refine ⟨[], value, others, by rw [ends, List.nil_append], by simp, ?_, read⟩
          rw [List.append_nil, resolved]
        case h_2 => cases read
      case isFalse goesOn =>
        split at read
        case isTrue => cases read
        case isFalse plain =>
          obtain ⟨name, value, rest, rfl, ⟨noEnd, noStart⟩, resolved, later⟩ :=
            inductionHypothesis read
          refine ⟨byte :: name, value, rest, rfl, ⟨?_, ?_⟩, ?_, later⟩
          · simp [noEnd, Ne.symm goesOn]
          · simp [noStart, Ne.symm plain]
          · rwa [List.reverse_cons, List.append_assoc, List.singleton_append] at resolved

theorem exists_of_unescapeFrom_append (read : unescapeFrom none done (front ++ back) = some result)
    (whole : ¬ CutsReference front back) :
    ∃ first second, unescapeFrom none done front = some first ∧ unescape? back = some second ∧
      result = first ++ second := by
  -- A reference takes several bytes at once, so the induction is on the length.
  induction size : front.length using Nat.strongRecOn generalizing front done with
  | _ size inductionHypothesis =>
      cases front with
      | nil =>
          rw [List.nil_append, unescapeFrom_none_eq, Option.map_eq_some_iff] at read
          obtain ⟨second, read, rfl⟩ := read
          exact ⟨done.reverse, second, rfl, read, rfl⟩
      | cons byte others =>
          rw [List.length_cons] at size
          rw [List.cons_append, unescapeFrom] at read
          rw [unescapeFrom]
          split at read
          case isFalse plain =>
            have wholeLater : ¬ CutsReference others back :=
              fun cuts => whole (cuts.append_left [byte])
            rw [if_neg plain]
            exact inductionHypothesis _ (by omega) read wholeLater rfl
          case isTrue opens =>
            rw [if_pos opens]
            obtain ⟨name, value, rest, shape, noMark, resolved, later⟩ :=
              exists_of_unescapeFrom_some read
            have isReference : (resolve? name).isSome = true := by
              have resolved : resolve? name = some value := resolved
              rw [resolved]
              rfl
            rcases List.append_eq_append_iff.mp shape with ⟨inner, rfl, rfl⟩ | ⟨after, rfl, left⟩
            · exact absurd ⟨[], others, inner, rest, by rw [opens, List.nil_append], rfl,
                isReference⟩ whole
            · cases after with
              | nil =>
                  refine absurd ⟨[], name, [], rest, ?_, left.symm, ?_⟩ whole
                  · rw [opens, List.append_nil, List.nil_append]
                  · rwa [List.append_nil]
              | cons semicolon after =>
                  obtain ⟨rfl, rfl⟩ := List.cons.inj left
                  have wholeLater : ¬ CutsReference after back := by
                    intro cuts
                    have longer := cuts.append_left (byte :: name ++ [0x3B])
                    exact whole (by simpa using longer)
                  rw [List.length_append, List.length_cons] at size
                  rw [unescapeFrom_reference noMark resolved]
                  exact inductionHypothesis _ (by omega) later wholeLater rfl

/-! ## Texts -/

theorem exists_resolve?_eq (resolved : resolve? name = some value) :
    ∃ c : Char, value = String.utf8EncodeChar c := by
  have spelled {code : Nat} {value : Bytes} (found : characterOfCode? code = some value) :
      ∃ c : Char, value = String.utf8EncodeChar c := by
    unfold characterOfCode? at found
    split at found
    · exact ⟨_, (Option.some.inj found).symm⟩
    · cases found
  unfold resolve? at resolved
  split at resolved
  · cases resolved
  · cases resolved
  · obtain ⟨code, -, found⟩ := Option.bind_eq_some_iff.mp resolved
    exact spelled found
  · cases resolved
  · obtain ⟨code, -, found⟩ := Option.bind_eq_some_iff.mp resolved
    exact spelled found
  · split at resolved
    · exact ⟨'<', (Option.some.inj resolved).symm⟩
    split at resolved
    · exact ⟨'>', (Option.some.inj resolved).symm⟩
    split at resolved
    · exact ⟨'&', (Option.some.inj resolved).symm⟩
    split at resolved
    · exact ⟨Char.ofNat 0x27, (Option.some.inj resolved).symm⟩
    split at resolved
    · exact ⟨'"', (Option.some.inj resolved).symm⟩
    · cases resolved

/-- Resolving references makes no byte that goes on with a character from one that starts one. -/
theorem startsCharacter_of_unescape? (read : unescape? back = some result)
    (starts : StartsCharacter back) : StartsCharacter result := by
  cases back with
  | nil =>
      cases read
      exact Bytes.startsCharacter_nil
  | cons byte rest =>
      rw [unescape?, unescapeFrom] at read
      split at read
      case isTrue =>
        obtain ⟨name, value, rest, -, -, resolved, later⟩ := exists_of_unescapeFrom_some read
        obtain ⟨c, rfl⟩ := exists_resolve?_eq resolved
        rw [List.append_nil, unescapeFrom_none_eq, Option.map_eq_some_iff] at later
        obtain ⟨shown, -, rfl⟩ := later
        rw [List.reverse_reverse]
        exact Bytes.startsCharacter_utf8EncodeChar_append c shown
      case isFalse =>
        rw [unescapeFrom_none_eq, Option.map_eq_some_iff] at read
        obtain ⟨shown, -, rfl⟩ := read
        intro first member
        exact starts first member

/-- What character data says is what its parts say, unless it is cut inside a reference or a
character. -/
theorem exists_of_text?_append {text : String} (read : text? (front ++ back) = some text)
    (whole : ¬ CutsReference front back) (starts : StartsCharacter back) :
    ∃ before after, text? front = some before ∧ text? back = some after ∧
      text = before ++ after := by
  obtain ⟨bytes, resolved, spelled⟩ := Option.bind_eq_some_iff.mp read
  obtain ⟨first, second, readFirst, readSecond, rfl⟩ :=
    exists_of_unescapeFrom_append resolved whole
  obtain ⟨before, after, spelledFirst, spelledSecond, same⟩ :=
    Bytes.exists_of_text?_append spelled (startsCharacter_of_unescape? readSecond starts)
  have readFirst : unescape? front = some first := readFirst
  refine ⟨before, after, ?_, ?_, same⟩
  · rw [text?, readFirst, Option.bind_some, spelledFirst]
  · rw [text?, readSecond, Option.bind_some, spelledSecond]

end Ebms.Markup
