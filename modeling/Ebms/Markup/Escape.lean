import Ebms.Bytes

/-! # Character data

Five characters have a written form of their own inside markup.  Writing
replaces each of them; reading resolves those five names and numeric character
references, and refuses every other reference. -/

set_option autoImplicit false

namespace Ebms.Markup

/-- The reference that stands for a byte in written character data, or the byte
itself. -/
def escapeByte (byte : UInt8) : Bytes :=
  if byte = 0x3C then [0x26, 0x6C, 0x74, 0x3B]
  else if byte = 0x3E then [0x26, 0x67, 0x74, 0x3B]
  else if byte = 0x27 then [0x26, 0x61, 0x70, 0x6F, 0x73, 0x3B]
  else if byte = 0x26 then [0x26, 0x61, 0x6D, 0x70, 0x3B]
  else if byte = 0x22 then [0x26, 0x71, 0x75, 0x6F, 0x74, 0x3B]
  else [byte]

def escape (text : Bytes) : Bytes := text.flatMap escapeByte

def digitValue? (base : Nat) (byte : UInt8) : Option Nat :=
  match Bytes.hexValue? (Char.ofNat byte.toNat) with
  | some value => if value < base then some value else none
  | none => none

def numberFrom (base value : Nat) : Bytes → Option Nat
  | [] => some value
  | byte :: rest =>
    match digitValue? base byte with
    | some digit => numberFrom base (base * value + digit) rest
    | none => none

/-- The UTF-8 encoding of the character with a code, if the code is that of a
character other than NUL. -/
def characterOfCode? (code : Nat) : Option Bytes :=
  if code ≠ 0 ∧ code.isValidChar then some (String.utf8EncodeChar (Char.ofNat code))
  else none

def resolve? (name : Bytes) : Option Bytes :=
  match name with
  | [] => none
  | 0x23 :: 0x78 :: [] => none
  | 0x23 :: 0x78 :: digits => (numberFrom 16 0 digits).bind characterOfCode?
  | 0x23 :: [] => none
  | 0x23 :: digits => (numberFrom 10 0 digits).bind characterOfCode?
  | _ =>
    if name = [0x6C, 0x74] then some [0x3C]
    else if name = [0x67, 0x74] then some [0x3E]
    else if name = [0x61, 0x6D, 0x70] then some [0x26]
    else if name = [0x61, 0x70, 0x6F, 0x73] then some [0x27]
    else if name = [0x71, 0x75, 0x6F, 0x74] then some [0x22]
    else none

/-- Resolves references.  `pending` holds the name read since an open `&`, last
byte first, and `done` what has been resolved so far, last byte first. -/
def unescapeFrom (pending : Option Bytes) (done : Bytes) : Bytes → Option Bytes
  | [] =>
    match pending with
    | none => some done.reverse
    | some _ => none
  | byte :: rest =>
    match pending with
    | none =>
      if byte = 0x26 then unescapeFrom (some []) done rest
      else unescapeFrom none (byte :: done) rest
    | some name =>
      if byte = 0x3B then
        match resolve? name.reverse with
        | some value => unescapeFrom none (value.reverse ++ done) rest
        | none => none
      else if byte = 0x26 then none
      else unescapeFrom (some (byte :: name)) done rest

def unescape? (raw : Bytes) : Option Bytes := unescapeFrom none [] raw

def text? (raw : Bytes) : Option String := (unescape? raw).bind Bytes.text?

end Ebms.Markup
