/-! # Punycode

Labels of a domain name that hold more than ASCII are written in ASCII as RFC
3492 says: the ASCII characters first, then, in a variable-length notation to
base 36, where the others are inserted. -/

set_option autoImplicit false

namespace Ebms.Punycode

def digitChar (value : Nat) : Char :=
  if value < 26 then Char.ofNat (97 + value) else Char.ofNat (22 + value)

def digitValue? (c : Char) : Option Nat :=
  if 'a' ≤ c ∧ c ≤ 'z' then some (c.toNat - 97)
  else if 'A' ≤ c ∧ c ≤ 'Z' then some (c.toNat - 65)
  else if '0' ≤ c ∧ c ≤ '9' then some (c.toNat - 22)
  else none

/-- The threshold of the digit whose place is `place`, a multiple of 36. -/
def threshold (place bias : Nat) : Nat := min 26 (max 1 (place - bias))

def shrink (delta places : Nat) : Nat × Nat :=
  if 455 < delta then shrink (delta / 35) (places + 36) else (delta, places)
termination_by delta
decreasing_by exact Nat.div_lt_self (by omega) (by omega)

/-- The bias after a step of `delta` that made `count` characters. -/
def adapt (delta count : Nat) (first : Bool) : Nat :=
  let scaled := if first then delta / 700 else delta / 2
  let (rest, places) := shrink (scaled + scaled / count) 0
  places + 36 * rest / (rest + 38)

def digits (bias place value : Nat) : List Char :=
  let t := threshold place bias
  if value < t then [digitChar value]
  else digitChar (t + (value - t) % (36 - t)) :: digits bias (place + 36) ((value - t) / (36 - t))
termination_by value
decreasing_by
  have positive : 1 ≤ threshold place bias := by unfold threshold; omega
  calc (value - threshold place bias) / (36 - threshold place bias)
      ≤ value - threshold place bias := Nat.div_le_self _ _
    _ < value := by omega

/-- The state of writing: the digits so far, last one first, the pending step,
the bias and the number of characters placed. -/
structure Writing where
  written : List Char
  delta : Nat
  bias : Nat
  placed : Nat

def Writing.pass (basic code : Nat) (w : Writing) (c : Char) : Writing :=
  if c.toNat < code then { w with delta := w.delta + 1 }
  else if c.toNat = code then
    { written := (digits w.bias 36 w.delta).reverse ++ w.written
      delta := 0
      bias := adapt w.delta (w.placed + 1) (w.placed == basic)
      placed := w.placed + 1 }
  else w

def Writing.place (label : List Char) (basic : Nat) : List Nat → Nat → Writing → Writing
  | [], _, w => w
  | code :: codes, next, w =>
    let w := { w with delta := w.delta + (code - next) * (w.placed + 1) }
    let w := label.foldl (Writing.pass basic code) w
    place label basic codes (code + 1) { w with delta := w.delta + 1 }

def encode (label : List Char) : List Char :=
  let basic := label.filter fun c => c.toNat < 128
  let codes := ((label.filter fun c => 128 ≤ c.toNat).map Char.toNat).mergeSort.eraseDups
  let start : Writing := { written := [], delta := 0, bias := 72, placed := basic.length }
  let result := Writing.place label basic.length codes 128 start
  basic ++ (if basic.isEmpty then [] else ['-']) ++ result.written.reverse

/-- Reads a number below `2 ^ 32`; `weight` is that of the next digit and `sum`
the value so far. -/
def numberFrom (bias place weight sum : Nat) : List Char → Option (Nat × List Char)
  | [] => none
  | c :: rest =>
    match digitValue? c with
    | none => none
    | some d =>
      let t := threshold place bias
      let value := sum + d * weight
      if UInt32.size ≤ value then none
      else if d < t then some (value, rest)
      else if UInt32.size ≤ weight * (36 - t) then none
      else numberFrom bias (place + 36) (weight * (36 - t)) value rest

def insertFrom (label : List Char) (code position bias : Nat) :
    Nat → List Char → Option (List Char)
  | _, [] => some label
  | 0, _ => none
  | fuel + 1, rest =>
    match numberFrom bias 36 1 position rest with
    | none => none
    | some (value, rest) =>
      let count := label.length + 1
      let code := code + value / count
      if code < 0xD800 ∨ 0xE000 ≤ code ∧ code < 0x110000 then
        let place := value % count
        let bias := adapt (value - position) count (position == 0)
        insertFrom (label.take place ++ Char.ofNat code :: label.drop place) code (place + 1)
          bias fuel rest
      else none

/-- The label whose ASCII form is given.  A hyphen parts the ASCII characters from
the digits; there is none without such characters. -/
def decode? (ascii : List Char) : Option (List Char) :=
  let digits := (ascii.reverse.takeWhile (· != '-')).reverse
  let basic := ascii.take (ascii.length - digits.length)
  if basic = ['-'] then none
  else insertFrom basic.dropLast 128 0 72 (digits.length + 1) digits

end Ebms.Punycode
