import Ebms.Text.Trim

/-! # Numbers in decimal digits

Reading the digits of a number gives the number, with or without zeros in front
of them, and a number that fits into a width is written in exactly that width. -/

set_option autoImplicit false

namespace Ebms.Text

theorem digit?_of_isDigit {c : Char} (digit : c.isDigit = true) :
    digit? c = some (c.toNat - 48) := by
  rw [Char.isDigit, Bool.and_eq_true, decide_eq_true_eq, decide_eq_true_eq] at digit
  have inRange : '0' ≤ c ∧ c ≤ '9' := digit
  rw [digit?, if_pos inRange]

theorem decimalFrom_of_digits (chars : List Char)
    (digits : ∀ c ∈ chars, c.isDigit = true) (value : Nat) :
    decimalFrom value chars = some (Nat.ofDigitChars 10 chars value) := by
  induction chars generalizing value with
  | nil => simp [decimalFrom]
  | cons c rest inductionHypothesis =>
      have headDigit : c.isDigit = true := digits c List.mem_cons_self
      have restDigits : ∀ d ∈ rest, d.isDigit = true := by
        intro d member
        exact digits d (List.mem_cons_of_mem _ member)
      simp only [decimalFrom, digit?_of_isDigit headDigit]
      rw [inductionHypothesis restDigits, Nat.ofDigitChars_cons]
      rfl

theorem decimal?_of_digits {chars : List Char} (nonempty : chars ≠ [])
    (digits : ∀ c ∈ chars, c.isDigit = true) :
    decimal? chars = some (Nat.ofDigitChars 10 chars 0) := by
  cases chars with
  | nil => exact absurd rfl nonempty
  | cons c rest => exact decimalFrom_of_digits (c :: rest) digits 0

theorem isDigit_of_mem_toDigits {value : Nat} {c : Char}
    (member : c ∈ Nat.toDigits 10 value) : c.isDigit = true :=
  Nat.isDigit_of_mem_toDigits (by decide) (by decide) member

@[simp] theorem toList_ofNat (value : Nat) : (ofNat value).toList = Nat.toDigits 10 value := by
  simp [ofNat]

theorem head?_toDigits_ne_zero {value : Nat} (positive : 0 < value) :
    (Nat.toDigits 10 value).head? ≠ some '0' := by
  induction value using Nat.strongRecOn with
  | _ value inductionHypothesis =>
      by_cases single : value < 10
      · rw [Nat.toDigits_of_lt_base single]
        simp [Nat.ne_of_gt positive]
      · have front := inductionHypothesis (value / 10) (by omega) (by omega)
        rw [Nat.toDigits_of_base_le (by decide) (Nat.le_of_not_lt single)]
        cases digits : Nat.toDigits 10 (value / 10) with
        | nil => exact absurd digits Nat.toDigits_ne_nil
        | cons first more => simpa [digits] using front

theorem decimal?_ofNat (value : Nat) : decimal? (ofNat value).toList = some value := by
  rw [toList_ofNat, decimal?_of_digits Nat.toDigits_ne_nil]
  · rw [Nat.ofDigitChars_ten_toDigits]
  · intro c member
    exact isDigit_of_mem_toDigits member

theorem toList_padded (width value : Nat) :
    (padded width value).toList =
      List.replicate (width - (Nat.toDigits 10 value).length) '0'
        ++ Nat.toDigits 10 value := by
  simp [padded]

theorem isDigit_of_mem_padded {width value : Nat} {c : Char}
    (member : c ∈ (padded width value).toList) : c.isDigit = true := by
  rw [toList_padded, List.mem_append] at member
  rcases member with zero | digit
  · rw [List.eq_of_mem_replicate zero]
    decide
  · exact isDigit_of_mem_toDigits digit

theorem padded_ne_nil (width value : Nat) : (padded width value).toList ≠ [] := by
  rw [toList_padded]
  exact List.append_ne_nil_of_right_ne_nil _ Nat.toDigits_ne_nil

theorem ofDigitChars_padded (width value : Nat) :
    Nat.ofDigitChars 10 (padded width value).toList 0 = value := by
  rw [toList_padded, Nat.ofDigitChars_append, Nat.ofDigitChars_replicate_zero,
    Nat.mul_zero, Nat.ofDigitChars_ten_toDigits]

theorem decimal?_padded (width value : Nat) :
    decimal? (padded width value).toList = some value := by
  rw [decimal?_of_digits (padded_ne_nil width value), ofDigitChars_padded]
  intro c member
  exact isDigit_of_mem_padded member

theorem padded_injective {width first second : Nat}
    (same : (padded width first).toList = (padded width second).toList) :
    first = second := by
  rw [← ofDigitChars_padded width first, same, ofDigitChars_padded]

theorem length_padded {width value : Nat} (positive : 0 < width)
    (fits : value < Nat.pow 10 width) : (padded width value).toList.length = width := by
  have short : (Nat.toDigits 10 value).length ≤ width :=
    (Nat.length_toDigits_le_iff (by decide) positive).mpr fits
  rw [toList_padded, List.length_append, List.length_replicate]
  omega

end Ebms.Text
