import Ebms.Decimal.Nearest
import Ebms.Text.Trim

/-! # Doubles as shortest decimal numbers

A double is written with the fewest decimal digits that read back as the same
double, and of those the ones nearest to it.  Seventeen digits always suffice. -/

set_option autoImplicit false

namespace Ebms

namespace Dyadic

def numerator (d : Dyadic) (power : Int) : Nat :=
  d.mantissa * Nat.pow 2 d.exponent.toNat * Nat.pow 10 (-power).toNat

def denominator (d : Dyadic) (power : Int) : Nat :=
  Nat.pow 2 (-d.exponent).toNat * Nat.pow 10 power.toNat

/-- The number of decimal digits before the point; not positive for a number
below one tenth. -/
def decimalSize (d : Dyadic) : Int :=
  ((Nat.toDigits 10 (d.numerator (-400) / d.denominator (-400))).length : Int) - 400

def neighbours (d : Dyadic) (places : Nat) : List Decimal :=
  let power := d.decimalSize - places
  let below := d.numerator power / d.denominator power
  let nearer := roundQuotient (d.numerator power) (d.denominator power)
  let other := if nearer = below then below + 1 else below
  [{ digits := nearer, power }, { digits := other, power }]

/-- The shortest decimal number that reads back as a double, from a number of
digits on. -/
def shortestFrom (d : Dyadic) (value : Float) (places : Nat) : Nat → Decimal
  | 0 => (d.neighbours places).headD default
  | more + 1 =>
    match (d.neighbours places).find? (·.toFloat == value) with
    | some found => found
    | none => shortestFrom d value (places + 1) more

end Dyadic

namespace Decimal

def text (d : Decimal) : String :=
  match d.power with
  | .ofNat power => Text.ofNat (d.digits * Nat.pow 10 power)
  | .negSucc less =>
    let unit := Nat.pow 10 (less + 1)
    let places := Text.dropEndWhile (· == '0') (Text.padded (less + 1) (d.digits % unit)).toList
    if places.isEmpty then Text.ofNat (d.digits / unit)
    else Text.ofNat (d.digits / unit) ++ "." ++ String.ofList places

end Decimal

def floatText (value : Float) : String :=
  match Dyadic.ofFloat? value with
  | none =>
    if value.isNaN then "NaN" else if hasMinusSign value then "-inf" else "inf"
  | some d =>
    let sign := if hasMinusSign value then "-" else ""
    if d.mantissa = 0 then sign ++ "0"
    else sign ++ (d.shortestFrom value.abs 1 16).text

/-- A double written out so that it cannot be taken for a whole number. -/
def pointedFloatText (value : Float) : String :=
  let text := floatText value
  if text.all fun c => c.isDigit || c == '-' then text ++ ".0" else text

def Decimal.scientificText (d : Decimal) : String :=
  let digits := (Nat.toDigits 10 d.digits)
  let places := Text.dropEndWhile (· == '0') (digits.drop 1)
  String.ofList (digits.take 1 ++ (if places.isEmpty then [] else '.' :: places)) ++ "e"
    ++ Text.ofInt (d.power + (digits.length - 1 : Nat))

/-- A double with a point or, when it is very large or very small, in scientific
form. -/
def preciseFloatText (value : Float) : String :=
  match Dyadic.ofFloat? value with
  | none => floatText value
  | some d =>
    if d.mantissa = 0 || (value.abs >= 0.0001 && value.abs < 10000000000000000.0) then
      pointedFloatText value
    else
      (if hasMinusSign value then "-" else "") ++ (d.shortestFrom value.abs 1 16).scientificText

end Ebms
