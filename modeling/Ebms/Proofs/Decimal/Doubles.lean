import Ebms.Decimal.Dyadic
import Mathlib

/-! # The numbers that doubles stand for

A finite double stands for a rational number, and to compare it with a constant is to compare
that number.  The other doubles stand for no number. -/

set_option autoImplicit false

namespace Ebms

open Float.Model Float.Model.UnpackedFloat

namespace Dyadic

def value (d : Dyadic) : ℚ := d.mantissa * 2 ^ d.exponent

/-- The number as a double holds it: the leading digit is a one unless the exponent is the
least of all. -/
structure IsCanonical (d : Dyadic) : Prop where
  small : d.mantissa < 2 ^ 53
  leads : -1074 < d.exponent → 2 ^ 52 ≤ d.mantissa

theorem IsCanonical.one_le_value_iff {d : Dyadic} (canonical : d.IsCanonical) :
    1 ≤ d.value ↔ -52 ≤ d.exponent := by
  constructor
  · intro least
    by_contra low
    have most : (d.mantissa : ℚ) < 2 ^ (53 : ℤ) := by exact_mod_cast canonical.small
    have scale : (2 : ℚ) ^ d.exponent ≤ 2 ^ (-53 : ℤ) :=
      zpow_le_zpow_right₀ (by norm_num) (by omega)
    have below : d.value < 1 := by
      calc d.value
          ≤ d.mantissa * 2 ^ (-53 : ℤ) := mul_le_mul_of_nonneg_left scale (Nat.cast_nonneg _)
        _ < 2 ^ (53 : ℤ) * 2 ^ (-53 : ℤ) := mul_lt_mul_of_pos_right most (by positivity)
        _ = 1 := by norm_num
    exact absurd least (not_le.mpr below)
  · intro high
    have least : (2 : ℚ) ^ (52 : ℤ) ≤ d.mantissa := by exact_mod_cast canonical.leads (by omega)
    have scale : (2 : ℚ) ^ (-52 : ℤ) ≤ 2 ^ d.exponent :=
      zpow_le_zpow_right₀ (by norm_num) high
    calc (1 : ℚ)
        = 2 ^ (52 : ℤ) * 2 ^ (-52 : ℤ) := by norm_num
      _ ≤ d.value := mul_le_mul least scale (by positivity) (Nat.cast_nonneg _)

theorem value_nonneg (d : Dyadic) : 0 ≤ d.value :=
  mul_nonneg (Nat.cast_nonneg _) (zpow_nonneg (by norm_num) _)

theorem isCanonical_of_ofFloat? {x : Float} {d : Dyadic} (read : ofFloat? x = some d) :
    d.IsCanonical := by
  have fraction := Nat.mod_lt x.toBits.toNat (Nat.two_pow_pos 52)
  simp only [ofFloat?, Nat.pow_eq] at read
  split at read
  · cases read
  · split at read
    · cases read
      exact ⟨by dsimp only; omega, nofun⟩
    · cases read
      exact ⟨by dsimp only; omega, fun _ => Nat.le_add_right _ _⟩

end Dyadic

/-- The number that a double stands for; none for an infinity and for what is no number. -/
def exactValue? (x : Float) : Option ℚ :=
  (Dyadic.ofFloat? x).map fun d => if hasMinusSign x then -d.value else d.value

/-! ## The fields of a double -/

section Fields

variable (word : BitVec Format.binary64.numBits)

theorem toNat_unpackExponent : (unpackExponent word).toNat = word.toNat / 2 ^ 52 % 2 ^ 11 := by
  simp [unpackExponent, Nat.shiftRight_eq_div_pow]

theorem toNat_unpackMantissa : (unpackMantissa word).toNat = word.toNat % 2 ^ 52 := by
  simp [unpackMantissa]

theorem toNat_unpackSign : (unpackSign word).toNat = word.toNat / 2 ^ 63 := by
  have bounded : word.toNat / 2 ^ 63 < 2 := Nat.div_lt_of_lt_mul word.isLt
  simp only [unpackSign, BitVec.toNat_cast, BitVec.extractLsb_toNat, Nat.shiftRight_eq_div_pow]
  exact Nat.mod_eq_of_lt bounded

end Fields

def signOf (x : Float) : Sign := if hasMinusSign x then .negative else .positive

theorem ofBitVec_unpackSign (x : Float) :
    Sign.ofBitVec (@unpackSign Format.binary64 x.toBits.toBitVec) = signOf x := by
  have field : _ = x.toBits.toNat / 2 ^ 63 := toNat_unpackSign x.toBits.toBitVec
  have single : x.toBits.toNat / 2 ^ 63 < 2 := Nat.div_lt_of_lt_mul x.toBits.toBitVec.isLt
  have either : x.toBits.toNat / 2 ^ 63 = 0 ∨ x.toBits.toNat / 2 ^ 63 = 1 := by omega
  have sign : hasMinusSign x = (x.toBits.toNat / 2 ^ 63 == 1) := rfl
  unfold signOf
  rcases either with plus | minus
  · rw [BitVec.eq_of_toNat_eq (y := 0#1) (field.trans plus), sign, plus]
    rfl
  · rw [BitVec.eq_of_toNat_eq (y := 1#1) (field.trans minus), sign, minus]
    rfl

/-- Two readings of a double agree: the one as an exact number, and the one as a sign, a
mantissa and an exponent. -/
inductive ReadsAlike (sign : Sign) : Option Dyadic → Float.Model.UnpackedFloat → Prop
  | infinity : ReadsAlike sign none (.infinity sign)
  | notANumber : ReadsAlike sign none .notANumber
  | zero (exponent : Int) : ReadsAlike sign (some ⟨0, exponent⟩) (.zero sign)
  | finite (mantissa : Nat) (exponent : Int) (positive : 0 < mantissa) :
    ReadsAlike sign (some ⟨mantissa, exponent⟩) (.finite sign mantissa exponent positive)

theorem toNat_leading_append (fraction : BitVec 52) :
    (1#1 ++ fraction).toNat = 2 ^ 52 + fraction.toNat := by
  rw [BitVec.toNat_append, ← Nat.shiftLeft_add_eq_or_of_lt fraction.isLt]
  rfl

theorem readsAlike (x : Float) : ReadsAlike (signOf x) (Dyadic.ofFloat? x) x.toModel.unpack := by
  have exponent : _ = x.toBits.toNat / 2 ^ 52 % 2 ^ 11 := toNat_unpackExponent x.toBits.toBitVec
  have mantissa : _ = x.toBits.toNat % 2 ^ 52 := toNat_unpackMantissa x.toBits.toBitVec
  -- The bits are compared as numbers, as the exact reading does.
  have most (e : BitVec 11) : e = -1#11 ↔ e.toNat = 2047 := (BitVec.toNat_inj (y := -1#11)).symm
  have least (e : BitVec 11) : e = 0#11 ↔ e.toNat = 0 := (BitVec.toNat_inj (y := 0#11)).symm
  have void (m : BitVec 52) : m = 0#52 ↔ m.toNat = 0 := (BitVec.toNat_inj (y := 0#52)).symm
  show ReadsAlike _ _ (Float.Model.UnpackedFloat.unpack Format.binary64 x.toBits.toBitVec)
  simp only [Float.Model.UnpackedFloat.unpack, Dyadic.ofFloat?, Nat.pow_eq, ofBitVec_unpackSign,
    toNat_leading_append, most, least, void, exponent, mantissa]
  split
  · split
    · exact .infinity
    · exact .notANumber
  · split
    next low =>
      split
      next empty => simpa only [empty] using ReadsAlike.zero (-1074)
      next =>
        simp only [low]
        exact .finite _ (-1074) _
    · exact .finite _ _ _

/-! ## Comparing -/

def unpackedOne : Float.Model.UnpackedFloat := .finite .positive (2 ^ 52) (-52) (by decide)

theorem one_le_iff (x : Float) : 1.0 ≤ x ↔ unpackedOne.le x.toModel.unpack = true := by
  have one : (1.0 : Float).toModel.unpack = unpackedOne := rfl
  rw [← one]
  exact decide_eq_true_iff

theorem unpackedOne_le_iff {mantissa : Nat} {exponent : Int} (positive : 0 < mantissa)
    (leads : -52 ≤ exponent → 2 ^ 52 ≤ mantissa) :
    unpackedOne.le (.finite .positive mantissa exponent positive) = true ↔ -52 ≤ exponent := by
  simp only [UnpackedFloat.le, unpackedOne, UnpackedFloat.compare, Option.any_some,
    Ordering.isLE_then_iff_and, Std.isLE_compare, Std.compare_eq_lt]
  omega

/-- A double is found finite and at least one exactly if it stands for a number of at least
one. -/
theorem isFinite_and_one_le_iff (x : Float) :
    x.isFinite = true ∧ 1.0 ≤ x ↔ ∃ number, exactValue? x = some number ∧ 1 ≤ number := by
  have finite : x.isFinite = x.toModel.unpack.isFinite := rfl
  have canonical (d : Dyadic) : Dyadic.ofFloat? x = some d → d.IsCanonical :=
    Dyadic.isCanonical_of_ofFloat?
  have alike := readsAlike x
  rw [one_le_iff, finite]
  unfold exactValue?
  revert alike canonical
  generalize x.toModel.unpack = unpacked
  generalize Dyadic.ofFloat? x = read
  intro canonical alike
  cases alike with
  | infinity => simp [UnpackedFloat.isFinite]
  | notANumber => simp [UnpackedFloat.isFinite]
  | zero exponent =>
      have nothing : (⟨0, exponent⟩ : Dyadic).value = 0 := by simp [Dyadic.value]
      have exceeds : unpackedOne.le (.zero (signOf x)) = false := rfl
      simp only [exceeds, Option.map_some, nothing, neg_zero, ite_self]
      norm_num
  | finite mantissa exponent positive =>
      have sound := canonical _ rfl
      unfold signOf
      cases hasMinusSign x with
      | true =>
          have exceeds :
              unpackedOne.le (.finite .negative mantissa exponent positive) = false := rfl
          have above := Dyadic.value_nonneg ⟨mantissa, exponent⟩
          constructor
          · rintro ⟨-, least⟩
            cases exceeds.symm.trans least
          · rintro ⟨number, stands, least⟩
            obtain rfl := Option.some.inj stands
            simp only [if_true] at least
            linarith
      | false =>
          have leads (high : -52 ≤ exponent) : 2 ^ 52 ≤ mantissa :=
            sound.leads (by dsimp only; omega)
          simp [UnpackedFloat.isFinite, unpackedOne_le_iff positive leads, sound.one_le_value_iff]

end Ebms
