import Ebms.Decimal.Dyadic

/-! # From decimal numbers to doubles

A decimal number is a whole number times a power of ten.  The double for it is
the nearest one, and of two that are equally near the one with an even mantissa;
beyond the largest double comes infinity. -/

set_option autoImplicit false

namespace Ebms

/-- The number `digits · 10 ^ power`. -/
structure Decimal where
  digits : Nat
  power : Int
  deriving DecidableEq, Repr, Inhabited

/-- The exponent with which a quotient is written as a double: the largest that
leaves 53 binary digits before the point, but no less than the smallest there
is. -/
def exponentOfQuotient (numerator denominator : Nat) : Int :=
  let estimate : Int := (Nat.log2 numerator : Int) - (Nat.log2 denominator : Int) - 53
  let exact : Int :=
    if numerator * Nat.pow 2 (-estimate).toNat
        < Nat.pow 2 53 * (denominator * Nat.pow 2 estimate.toNat) then estimate
    else estimate + 1
  max exact (-1074)

/-- The bits of the double nearest to a quotient.  A mantissa that rounds up to
`2 ^ 53` carries into the exponent. -/
def bitsOfQuotient (numerator denominator : Nat) : Nat :=
  if numerator = 0 then 0
  else
    let exponent := exponentOfQuotient numerator denominator
    let mantissa := roundQuotient (numerator * Nat.pow 2 (-exponent).toNat)
      (denominator * Nat.pow 2 exponent.toNat)
    min ((exponent + 1074).toNat * Nat.pow 2 52 + mantissa) (2047 * Nat.pow 2 52)

namespace Decimal

/-- The double nearest to the number.  Powers far beyond the range of doubles
are not multiplied out. -/
def toFloat (d : Decimal) : Float :=
  let size : Int := (Nat.toDigits 10 d.digits).length
  if d.digits = 0 ∨ d.power + size < -400 then 0.0
  else if d.power > 400 then 1.0 / 0.0
  else
    Float.ofBits (UInt64.ofNat
      (bitsOfQuotient (d.digits * Nat.pow 10 d.power.toNat) (Nat.pow 10 (-d.power).toNat)))

end Decimal

end Ebms
