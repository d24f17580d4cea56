/-! # Byte strings

Messages travel as byte strings.  This module holds their type, the passage
from and to text in UTF-8, the hexadecimal form in which digests and keys are
shown, pieces between two places, and the search for a pattern that multipart
bodies and markup need. -/

set_option autoImplicit false

namespace Ebms

abbrev Bytes := List UInt8

namespace Bytes

def ofText (text : String) : Bytes := text.toByteArray.data.toList

def text? (bytes : Bytes) : Option String := String.fromUTF8? ⟨bytes.toArray⟩

def hexDigit (value : Nat) : Char :=
  if value < 10 then Char.ofNat (48 + value) else Char.ofNat (87 + value)

def hex (bytes : Bytes) : String :=
  String.ofList (bytes.flatMap fun byte =>
    [hexDigit (byte.toNat / 16), hexDigit (byte.toNat % 16)])

def hexValue? (digit : Char) : Option Nat :=
  if '0' ≤ digit ∧ digit ≤ '9' then some (digit.toNat - 48)
  else if 'a' ≤ digit ∧ digit ≤ 'f' then some (digit.toNat - 87)
  else if 'A' ≤ digit ∧ digit ≤ 'F' then some (digit.toNat - 55)
  else none

/-- Reads pairs of hexadecimal digits; `read` holds the bytes read so far, last
one first. -/
def ofHexDigits (read : Bytes) : List Char → Option Bytes
  | [] => some read.reverse
  | [_] => none
  | high :: low :: rest =>
    match hexValue? high, hexValue? low with
    | some h, some l => ofHexDigits (UInt8.ofNat (16 * h + l) :: read) rest
    | _, _ => none

def ofHex? (text : String) : Option Bytes := ofHexDigits [] text.toList

/-- The bytes before and after the first occurrence of a pattern; `before`
holds the bytes already passed, last one first. -/
def splitOnceFrom (pattern before : Bytes) : Bytes → Option (Bytes × Bytes)
  | [] => if pattern.isEmpty then some (before.reverse, []) else none
  | byte :: rest =>
    if pattern.isPrefixOf (byte :: rest) then
      some (before.reverse, (byte :: rest).drop pattern.length)
    else splitOnceFrom pattern (byte :: before) rest

def splitOnce (pattern bytes : Bytes) : Option (Bytes × Bytes) :=
  splitOnceFrom pattern [] bytes

def slice? (bytes : Bytes) (start stop : Nat) : Option Bytes :=
  if start ≤ stop ∧ stop ≤ bytes.length then some ((bytes.drop start).take (stop - start))
  else none

def littleEndian : Bytes → Nat
  | [] => 0
  | byte :: rest => byte.toNat + 256 * littleEndian rest

def ofNatLittleEndian : Nat → Nat → Bytes
  | 0, _ => []
  | count + 1, value => UInt8.ofNat (value % 256) :: ofNatLittleEndian count (value / 256)

end Bytes

end Ebms
