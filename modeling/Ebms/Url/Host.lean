import Ebms.Bytes
import Ebms.Text.Trim
import Ebms.Url.Domain

/-! # Hosts of URLs

A host is a domain name, an IPv4 or IPv6 address, or, in a URL of an unknown
scheme, any text without reserved characters.  Every host has one written form:
domain names in small ASCII letters, addresses in their shortest notation. -/

set_option autoImplicit false

namespace Ebms

inductive UrlFault where
  | emptyHost
  | invalidDomain
  | invalidPort
  | invalidIpv4
  | invalidIpv6
  | invalidHostCharacter
  | noScheme
  deriving DecidableEq, Repr, Inhabited

def UrlFault.message : UrlFault → String
  | .emptyHost => "empty host"
  | .invalidDomain => "invalid international domain name"
  | .invalidPort => "invalid port number"
  | .invalidIpv4 => "invalid IPv4 address"
  | .invalidIpv6 => "invalid IPv6 address"
  | .invalidHostCharacter => "invalid domain character"
  | .noScheme => "relative URL without a base"

namespace Url

def percentByte (byte : UInt8) : List Char :=
  '%' :: [byte.toNat / 16, byte.toNat % 16].map fun d =>
    if d < 10 then Char.ofNat (48 + d) else Char.ofNat (55 + d)

/-- A text with the bytes of some characters written with percent signs;
characters beyond ASCII and controls always are. -/
def percentEncode (reserved : Char → Bool) (chars : List Char) : List Char :=
  chars.flatMap fun c =>
    if c.toNat < 32 || 126 < c.toNat || reserved c then
      (Bytes.ofText (String.singleton c)).flatMap percentByte
    else [c]

def percentDecode : Bytes → Bytes
  | 0x25 :: high :: low :: rest =>
    match Bytes.hexValue? (Char.ofNat high.toNat), Bytes.hexValue? (Char.ofNat low.toNat) with
    | some h, some l => UInt8.ofNat (16 * h + l) :: percentDecode rest
    | _, _ => 0x25 :: percentDecode (high :: low :: rest)
  | byte :: rest => byte :: percentDecode rest
  | [] => []
termination_by bytes => bytes.length

/-! ## IPv4 addresses -/

def digitsValue? (base : Nat) (chars : List Char) : Option Nat :=
  chars.foldlM (fun value c =>
    (Bytes.hexValue? c).bind fun d => if d < base then some (base * value + d) else none) 0

/-- A number of an IPv4 address: decimal, octal behind a zero, or hexadecimal
behind `0x`. -/
def ipv4Number? : List Char → Option Nat
  | [] => none
  | '0' :: 'x' :: digits => digitsValue? 16 digits
  | '0' :: 'X' :: digits => digitsValue? 16 digits
  | '0' :: c :: digits => digitsValue? 8 (c :: digits)
  | digits => digitsValue? 10 digits

/-- The parts of a name between dots, one empty part at the end left out. -/
def addressParts (name : String) : List String :=
  let parts := Text.pieces '.' name
  if parts.length > 1 ∧ parts.getLast? = some "" then parts.dropLast else parts

/-- Whether a name has to be an IPv4 address: its last part is a number. -/
def endsInNumber (name : String) : Bool :=
  match (addressParts name).getLast? with
  | none => false
  | some last =>
    (!last.isEmpty && last.toList.all Char.isDigit) || (ipv4Number? last.toList).isSome

/-- The value of an IPv4 address.  Each number but the last is one byte; the last
one fills the bytes that are left. -/
def ipv4? (name : String) : Option Nat := do
  let parts := addressParts name
  let numbers ← parts.mapM fun part => ipv4Number? part.toList
  let last ← numbers.getLast?
  let leading := numbers.dropLast
  if numbers.length ≤ 4 ∧ leading.all (· < 256) ∧ last < Nat.pow 256 (5 - numbers.length) then
    some (leading.zipIdx.foldl (fun sum (n, i) => sum + n * Nat.pow 256 (3 - i)) last)
  else none

def ipv4Text (value : Nat) : String :=
  ".".intercalate ([3, 2, 1, 0].map fun i => Text.ofNat (value / Nat.pow 256 i % 256))

/-! ## IPv6 addresses -/

def ipv4Groups? (text : String) : Option (List Nat) := do
  let numbers ← (Text.pieces '.' text).mapM fun part =>
    match part.toList with
    | ['0'] => some 0
    | '0' :: _ => none
    | digits => (Text.decimal? digits).filter (· < 256)
  match numbers with
  | [a, b, c, d] => some [256 * a + b, 256 * c + d]
  | _ => none

def groups? (isLast : Bool) : List String → Option (List Nat)
  | [] => some []
  | [part] =>
    if isLast && part.toList.contains '.' then ipv4Groups? part
    else if part.isEmpty || 4 < part.length then none
    else (digitsValue? 16 part.toList).map ([·])
  | part :: rest =>
    if part.isEmpty || 4 < part.length then none
    else do
      let group ← digitsValue? 16 part.toList
      some (group :: (← groups? isLast rest))

def splitGap (passed : List Char) : List Char → Option (List Char × List Char)
  | ':' :: ':' :: rest => some (passed.reverse, rest)
  | c :: rest => splitGap (c :: passed) rest
  | [] => none

def sideGroups? (isLast : Bool) (side : List Char) : Option (List Nat) :=
  if side.isEmpty then some [] else groups? isLast (Text.pieces ':' (String.ofList side))

def ipv6? (chars : List Char) : Option (List Nat) :=
  match splitGap [] chars with
  | none => (sideGroups? true chars).filter (·.length == 8)
  | some (before, after) => do
    let left ← sideGroups? false before
    let right ← sideGroups? true after
    if left.length + right.length ≤ 7 then
      some (left ++ List.replicate (8 - left.length - right.length) 0 ++ right)
    else none

/-- The start and length of the first longest run of zeros; `current` is the run
that the next group may extend. -/
def longestZeros (best current : Nat × Nat) (index : Nat) : List Nat → Nat × Nat
  | [] => best
  | group :: rest =>
    if group = 0 then
      let current := if current.2 = 0 then (index, 1) else (current.1, current.2 + 1)
      longestZeros (if best.2 < current.2 then current else best) current (index + 1) rest
    else longestZeros best (0, 0) (index + 1) rest

def groupText (group : Nat) : String := String.ofList (Nat.toDigits 16 group)

/-- An IPv6 address, its first longest run of two or more zeros left out. -/
def ipv6Text (groups : List Nat) : String :=
  let (start, length) := longestZeros (0, 0) (0, 0) 0 groups
  if length < 2 then ":".intercalate (groups.map groupText)
  else
    ":".intercalate ((groups.take start).map groupText) ++ "::"
      ++ ":".intercalate ((groups.drop (start + length)).map groupText)

def bracketed (chars : List Char) : Except UrlFault String :=
  match chars.getLast?, ipv6? (chars.drop 1).dropLast with
  | some ']', some groups => .ok ("[" ++ ipv6Text groups ++ "]")
  | _, _ => .error .invalidIpv6

/-! ## Hosts -/

def hostText (chars : List Char) : Except UrlFault String :=
  match chars with
  | '[' :: _ => bracketed chars
  | _ =>
    let decoded := percentDecode (Bytes.ofText (String.ofList chars))
    match (Bytes.text? decoded).bind Domain.ascii? with
    | none => .error .invalidDomain
    | some name =>
      if name.isEmpty then .error .emptyHost
      else if endsInNumber name then
        match ipv4? name with
        | some value => .ok (ipv4Text value)
        | none => .error .invalidIpv4
      else .ok name

def opaqueHostText (chars : List Char) : Except UrlFault String :=
  match chars with
  | '[' :: _ => bracketed chars
  | _ =>
    if chars.any fun c => c.toNat = 0 || " #/:<>?@[\\]^|".toList.contains c then
      .error .invalidHostCharacter
    else .ok (String.ofList (percentEncode (fun _ => false) chars))

end Url

end Ebms
