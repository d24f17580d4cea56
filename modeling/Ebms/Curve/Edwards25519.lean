import Ebms.Bytes

/-! # The curve edwards25519

The group of the signature algorithm: points of -x² + y² = 1 + d·x²·y² over the
integers modulo 2²⁵⁵ - 19, in extended coordinates, with their 32-byte form.
Reading that form does not insist on a reduced coordinate, nor on a clear sign
when the other coordinate is zero. -/

set_option autoImplicit false

namespace Ebms.Edwards25519

def modulus : Nat := Nat.pow 2 255 - 19

def order : Nat := Nat.pow 2 252 + 27742317777372353535851937790883648493

def coefficient : Nat :=
  0x52036cee2b6ffe738cc740797779e89800700a4d4141d8ab75eb4dca135978a3

def rootOfMinusOne : Nat :=
  0x2b8324804fc1df0b2b4d00993dfbd7a72f431806ad2fe478c4ee1b274a0ea0b0

def add (a b : Nat) : Nat := (a + b) % modulus

def sub (a b : Nat) : Nat := (a + modulus - b) % modulus

def mul (a b : Nat) : Nat := a * b % modulus

/-- `result` times a power of a residue, the exponent's low `count` bits taken. -/
def powFrom (result base exponent : Nat) : Nat → Nat
  | 0 => result
  | count + 1 =>
    powFrom (if exponent % 2 = 1 then mul result base else result) (mul base base)
      (exponent / 2) count

def pow (base exponent : Nat) : Nat := powFrom 1 base exponent 256

def inverse (a : Nat) : Nat := pow a (modulus - 2)

/-- A point in extended coordinates: x = X/Z, y = Y/Z, x·y = T/Z. -/
structure Point where
  x : Nat
  y : Nat
  z : Nat
  t : Nat
  deriving DecidableEq, Repr, Inhabited

def neutral : Point := { x := 0, y := 1, z := 1, t := 0 }

def base : Point :=
  let x := 0x216936d3cd6e53fec0a4e231fdd6dc5c692cc7609525a7b2c9562d608f25d51a
  let y := 0x6666666666666666666666666666666666666666666666666666666666666658
  { x, y, z := 1, t := mul x y }

namespace Point

def plus (p q : Point) : Point :=
  let a := mul (sub p.y p.x) (sub q.y q.x)
  let b := mul (add p.y p.x) (add q.y q.x)
  let c := mul (mul (2 * p.t) q.t) coefficient
  let d := mul (2 * p.z) q.z
  let e := sub b a
  let f := sub d c
  let g := add d c
  let h := add b a
  { x := mul e f, y := mul g h, z := mul f g, t := mul e h }

def double (p : Point) : Point :=
  let a := mul p.x p.x
  let b := mul p.y p.y
  let c := mul (2 * p.z) p.z
  let h := add a b
  let sum := add p.x p.y
  let e := sub h (mul sum sum)
  let g := sub a b
  let f := add c g
  { x := mul e f, y := mul g h, z := mul f g, t := mul e h }

def opposite (p : Point) : Point :=
  { p with x := sub 0 p.x, t := sub 0 p.t }

/-- `a · p + b · q` by the bits of both factors below `count`, highest first,
with `both` the sum of the points. -/
def combineFrom (p q both : Point) (a b : Nat) : Nat → Point → Point
  | 0, result => result
  | count + 1, result =>
    let doubled := result.double
    let next := match a.testBit count, b.testBit count with
      | true, true => doubled.plus both
      | true, false => doubled.plus p
      | false, true => doubled.plus q
      | false, false => doubled
    combineFrom p q both a b count next

def combine (a : Nat) (p : Point) (b : Nat) (q : Point) : Point :=
  combineFrom p q (p.plus q) a b 256 neutral

def times (factor : Nat) (p : Point) : Point := combine factor p 0 neutral

/-- The 32-byte form: y, with the lowest bit of x as the highest bit. -/
def toBytes (p : Point) : Bytes :=
  let scale := inverse p.z
  let x := mul p.x scale
  let y := mul p.y scale
  Bytes.ofNatLittleEndian 32 (y + x % 2 * Nat.pow 2 255)

def rootOfRatio? (u v : Nat) : Option Nat :=
  let v3 := mul (mul v v) v
  let v7 := mul (mul v3 v3) v
  let r := mul (mul u v3) (pow (mul u v7) ((modulus - 5) / 8))
  let check := mul v (mul r r)
  if check = u then some r
  else if check = sub 0 u then some (mul r rootOfMinusOne)
  else none

def ofBytes? (bytes : Bytes) : Option Point :=
  if bytes.length = 32 then
    let value := Bytes.littleEndian bytes
    let y := value % Nat.pow 2 255 % modulus
    let sign := value / Nat.pow 2 255
    let y2 := mul y y
    match rootOfRatio? (sub y2 1) (add (mul coefficient y2) 1) with
    | none => none
    | some root =>
      let x := if root % 2 = sign then root else sub 0 root
      some { x, y, z := 1, t := mul x y }
  else none

end Point

end Ebms.Edwards25519
