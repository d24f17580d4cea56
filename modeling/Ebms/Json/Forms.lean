import Ebms.Bytes
import Ebms.Json

/-! # Values in JSON

How the plain values that documents are made of stand in JSON.  Reading is
lenient: what is missing, null or of another kind counts as empty, as zero or as
false.  A large integer may stand as a text, and a byte string stands as its
text, as a table with its hexadecimal form, as a repetition, or as a row of byte
strings. -/

set_option autoImplicit false

namespace Ebms.Json

def field (value : Json) (name : String) : Json := (value.member? name).getD .null

def isNull : Json → Bool
  | .null => true
  | _ => false

def items : Json → List Json
  | .array items => items
  | _ => []

def members : Json → List (String × Json)
  | .object members => members
  | _ => []

def toBool : Json → Bool
  | .bool value => value
  | _ => false

/-- An integer, by itself or as a text. -/
def toInt : Json → Int
  | .string text => text.toInt?.getD 0
  | value => value.integer?.getD 0

/-- A natural number; a negative one counts as zero. -/
def toNat (value : Json) : Nat := value.toInt.toNat

mutual

def toBytes : Json → Bytes
  | .string text => Bytes.ofText text
  | .object members => bytesOfMembers members
  | _ => []

/-- The byte string that the first telling member of an object describes. -/
def bytesOfMembers : List (String × Json) → Bytes
  | [] => []
  | ("hex", .string digits) :: _ => (Bytes.ofHex? digits).getD []
  | ("repeat", .array [part, count]) :: _ => (List.replicate count.toNat part.toBytes).flatten
  | ("cat", .array parts) :: _ => bytesOfParts parts
  | _ :: rest => bytesOfMembers rest

def bytesOfParts : List Json → Bytes
  | [] => []
  | part :: rest => part.toBytes ++ bytesOfParts rest

end

/-- A text, or a byte string that is the UTF-8 encoding of one. -/
def toText : Json → String
  | .string text => text
  | value => (Bytes.text? value.toBytes).getD ""

def option {α : Type} (read : Json → α) (value : Json) : Option α :=
  if value.isNull then none else some (read value)

def ofOption {α : Type} (write : α → Json) (value : Option α) : Json :=
  (value.map write).getD .null

def ofList {α : Type} (write : α → Json) (values : List α) : Json := .array (values.map write)

def ofHex (bytes : Bytes) : Json := .string (Bytes.hex bytes)

def hexBytes (value : Json) : Bytes := (Bytes.ofHex? value.toText).getD []

def extend (value : Json) (more : List (String × Json)) : Json :=
  .object (value.members ++ more)

end Ebms.Json
