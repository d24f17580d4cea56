import Ebms.Decimal.Shortest
import Ebms.Json

/-! # Structured data

Settings and processing modes are read from and written to structured data, in
whatever notation that stands.  Readers below take the fields of a record either
by name from a table or by position from a list; fields they do not know are
passed over. -/

set_option autoImplicit false

namespace Ebms

inductive Datum where
  | null
  | bool (value : Bool)
  | integer (value : Int)
  | float (value : Float)
  | text (value : String)
  /-- A date or a time of day, as written. -/
  | moment (written : String)
  | list (items : List Datum)
  | table (entries : List (String × Datum))
  deriving Inhabited

/-- The notations that data is read from; they differ in what they let pass. -/
inductive Notation where
  | json
  | toml
  deriving DecidableEq, Repr, Inhabited

namespace Datum

def decimalOfLiteral (literal : List Char) : Decimal :=
  let mantissa := literal.takeWhile fun c => c != 'e' && c != 'E'
  let exponent := (literal.drop mantissa.length).drop 1
  let whole := mantissa.takeWhile (· != '.')
  let fraction := (mantissa.drop whole.length).drop 1
  let power : Int := match exponent with
    | '-' :: digits => -((Text.decimal? digits).getD 0 : Nat)
    | '+' :: digits => ((Text.decimal? digits).getD 0 : Nat)
    | digits => ((Text.decimal? digits).getD 0 : Nat)
  { digits := (Text.decimal? (whole ++ fraction)).getD 0, power := power - fraction.length }

def floatOfLiteral (literal : List Char) : Float :=
  match literal with
  | '-' :: rest => -(decimalOfLiteral rest).toFloat
  | '+' :: rest => (decimalOfLiteral rest).toFloat
  | _ => (decimalOfLiteral literal).toFloat

mutual

/-- The data that a JSON value stands for.  A number without point and exponent
is an integer. -/
def ofJson : Json → Datum
  | .null => .null
  | .bool value => .bool value
  | .number literal =>
    match Json.integer? (.number literal) with
    | some value => .integer value
    | none => .float (floatOfLiteral literal.toList)
  | .string value => .text value
  | .array items => .list (ofJsonItems items)
  | .object members => .table (ofJsonMembers members)

def ofJsonItems : List Json → List Datum
  | [] => []
  | item :: rest => ofJson item :: ofJsonItems rest

def ofJsonMembers : List (String × Json) → List (String × Datum)
  | [] => []
  | (name, value) :: rest => (name, ofJson value) :: ofJsonMembers rest

end

mutual

/-- The JSON value for data.  A double keeps a point; one that JSON has no
literal for is null. -/
def toJson : Datum → Json
  | .null => .null
  | .bool value => .bool value
  | .integer value => .ofInt value
  | .float value => if value.isFinite then .number (pointedFloatText value) else .null
  | .text value | .moment value => .string value
  | .list items => .array (jsonOfItems items)
  | .table entries => .object (jsonOfEntries entries)

def jsonOfItems : List Datum → List Json
  | [] => []
  | item :: rest => item.toJson :: jsonOfItems rest

def jsonOfEntries : List (String × Datum) → List (String × Json)
  | [] => []
  | (name, value) :: rest => (name, value.toJson) :: jsonOfEntries rest

end

/-! ## Records -/

/-- The fields of a record whose fields have the given names, in order; none when
a name is repeated, and when the data is neither a table nor a list.  A list of
more items than there are names is none, too, unless `surplus` items may be passed
over.  A date counts as a table without any of the names. -/
def fields? (surplus : Bool) (names : List String) : Datum → Option (List (String × Datum))
  | .table entries =>
    let known := entries.filter fun entry => names.contains entry.1
    if (known.map (·.1)).Nodup then some known else none
  | .list items =>
    if surplus || items.length ≤ names.length then some (names.zip items) else none
  | .moment _ => some []
  | _ => none

def field {α : Type} (fields : List (String × Datum)) (name : String)
    (read : Datum → Option α) (absent : Option α) : Option α :=
  match fields.lookup name with
  | none => absent
  | some value => read value

def optionalField {α : Type} (fields : List (String × Datum)) (name : String)
    (read : Datum → Option α) : Option (Option α) :=
  match fields.lookup name with
  | none | some .null => some none
  | some value => (read value).map some

/-! ## Values -/

def fitsInt64 (value : Int) : Bool :=
  decide (Int64.minValue.toInt ≤ value ∧ value ≤ Int64.maxValue.toInt)

def bool? : Datum → Option Bool
  | .bool value => some value
  | _ => none

def text? : Datum → Option String
  | .text value => some value
  | _ => none

/-- The name of a choice without further content: a text, or the one entry of a
table whose value `isEmpty`. -/
def choice? (isEmpty : Datum → Bool) : Datum → Option String
  | .text name => some name
  | .table [(name, value)] => if isEmpty value then some name else none
  | _ => none

def below? (bound : Nat) : Datum → Option Nat
  | .integer (.ofNat value) => if value < bound then some value else none
  | _ => none

def float? : Datum → Option Float
  | .float value => some value
  | .integer value => some (Float.ofInt value)
  | _ => none

def list? {α : Type} (read : Datum → Option α) : Datum → Option (List α)
  | .list items => items.mapM read
  | _ => none

def ofText? (value : Option String) : Datum := (value.map Datum.text).getD .null

end Datum

namespace Notation

/-- Whether a record may be a list with more items than it has fields. -/
def allowsSurplus : Notation → Bool
  | .json => false
  | .toml => true

def isEmptyValue : Notation → Datum → Bool
  | .json, .null => true
  | .toml, .list [] | .toml, .table [] => true
  | _, _ => false

def fields? (source : Notation) (names : List String) (d : Datum) :
    Option (List (String × Datum)) := d.fields? source.allowsSurplus names

def choice? (source : Notation) (d : Datum) : Option String := d.choice? source.isEmptyValue

end Notation

end Ebms
