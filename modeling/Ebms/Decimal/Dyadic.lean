/-! # Doubles as exact numbers

A finite double is a whole number times a power of two.  Taken apart like this
it can be scaled and rounded exactly; a half goes to the even neighbour. -/

set_option autoImplicit false

namespace Ebms

/-- The quotient rounded to the nearest whole number, halves to the even one. -/
def roundQuotient (numerator denominator : Nat) : Nat :=
  let quotient := numerator / denominator
  let twice := 2 * (numerator % denominator)
  if twice < denominator then quotient
  else if denominator < twice then quotient + 1
  else if quotient % 2 = 0 then quotient
  else quotient + 1

/-- The number `mantissa · 2 ^ exponent`. -/
structure Dyadic where
  mantissa : Nat
  exponent : Int
  deriving DecidableEq, Repr, Inhabited

namespace Dyadic

def reaches (d : Dyadic) (bits : Nat) : Bool :=
  if d.mantissa = 0 then false
  else decide ((bits : Int) ≤ d.exponent + (Nat.log2 d.mantissa : Int))

def scaled (d : Dyadic) (factor : Nat) : Nat :=
  match d.exponent with
  | .ofNat e => d.mantissa * factor * Nat.pow 2 e
  | .negSucc e => roundQuotient (d.mantissa * factor) (Nat.pow 2 (e + 1))

/-- The absolute value of a double; none for an infinity and for what is no
number. -/
def ofFloat? (x : Float) : Option Dyadic :=
  let bits : Nat := x.toBits.toNat
  let fraction : Nat := bits % Nat.pow 2 52
  let biased : Nat := bits / Nat.pow 2 52 % Nat.pow 2 11
  if biased = 2047 then none
  else if biased = 0 then some { mantissa := fraction, exponent := -1074 }
  else some { mantissa := Nat.pow 2 52 + fraction, exponent := (biased : Int) - 1075 }

end Dyadic

def hasMinusSign (x : Float) : Bool := x.toBits.toNat / Nat.pow 2 63 == 1

end Ebms
