import Ebms.Bytes
import Ebms.Datum

/-! # Writing TOML

Documents are written for people: the values of a table come before the tables
in it, a blank line parts tables, an array of more than one item has a line for
each, and a string is written in the form that needs the fewest escapes. -/

set_option autoImplicit false

namespace Ebms.Toml

/-! ## Strings -/

def longestRun (isRun : Char → Bool) (run longest : Nat) : List Char → Nat
  | [] => longest
  | c :: rest =>
    if isRun c then longestRun isRun (run + 1) (Nat.max longest (run + 1)) rest
    else longestRun isRun 0 longest rest

def needsEscape (c : Char) : Bool :=
  (decide (c.toNat < 0x20) || c.toNat == 0x7F) && c != '\t' && c != '\n'

def numberedEscape (c : Char) : List Char :=
  let digit (value : Nat) : Char := (Bytes.hexDigit value).toUpper
  ['\\', 'u', digit (c.toNat / 4096 % 16), digit (c.toNat / 256 % 16), digit (c.toNat / 16 % 16),
    digit (c.toNat % 16)]

/-- Characters with escapes.  Over several lines, line breaks and up to two quotes
in a row stand as they are; `quotes` counts those just written. -/
def escaped (multiline : Bool) (quotes : Nat) : List Char → List Char
  | [] => []
  | c :: rest =>
    if c = '"' then
      if quotes < (if multiline then 2 else 0) then c :: escaped multiline (quotes + 1) rest
      else '\\' :: '"' :: escaped multiline 0 rest
    else if c = '\n' ∧ multiline then c :: escaped multiline 0 rest
    else
      let written : List Char :=
        if c.toNat = 8 then ['\\', 'b']
        else if c = '\t' then ['\\', 't']
        else if c = '\n' then ['\\', 'n']
        else if c.toNat = 12 then ['\\', 'f']
        else if c = '\r' then ['\\', 'r']
        else if c = '\\' then ['\\', '\\']
        else if needsEscape c then numberedEscape c
        else [c]
      written ++ escaped multiline 0 rest

/-- A string between marks; one over several lines begins on a new line. -/
def marked (mark : List Char) (startsLine : Bool) (inside : List Char) : String :=
  String.ofList (mark ++ (if startsLine then ['\n'] else []) ++ inside ++ mark)

def apostrophe : Char := Char.ofNat 39

def stringText (text : String) : String :=
  let chars := text.toList
  let apostrophes := longestRun (· == apostrophe) 0 0 chars
  let quotations := longestRun (· == '"') 0 0 chars
  let breaks := chars.any (· == '\n')
  let backslashes := chars.any (· == '\\')
  let escapes := chars.any needsEscape
  let basic := marked ['"'] false (escaped false 0 chars)
  let basicLines := marked ['"', '"', '"'] breaks (escaped true 0 chars)
  if !escapes && !backslashes && quotations == 0 && !breaks then basic
  else if !escapes && apostrophes == 0 && !breaks then marked [apostrophe] false chars
  else if !escapes && !backslashes && quotations ≤ 2 then basicLines
  else if !escapes && apostrophes ≤ 2 then
    marked [apostrophe, apostrophe, apostrophe] breaks chars
  else if breaks then basicLines
  else basic

/-! ## Values -/

def nameText (name : String) : String :=
  if !name.isEmpty && name.all fun c => c.isAlphanum || c == '-' || c == '_' then name
  else stringText name

def floatText (value : Float) : String :=
  if value.isNaN then (if hasMinusSign value then "-nan" else "nan")
  else if value.isInf then (if hasMinusSign value then "-inf" else "inf")
  else pointedFloatText value

mutual

def valueText : Datum → String
  | .null => ""
  | .bool true => "true"
  | .bool false => "false"
  | .integer value => Text.ofInt value
  | .float value => floatText value
  | .text value => stringText value
  | .moment written => written
  | .list [] => "[]"
  | .list [item] => "[" ++ valueText item ++ "]"
  | .list (first :: second :: rest) =>
    "[\n    " ++ valueText first ++ ",\n    " ++ valueText second ++ "," ++ itemsText rest ++ "\n]"
  | .table entries => "\x7b" ++ pairsText "" entries ++ "\x7d"

def itemsText : List Datum → String
  | [] => ""
  | item :: rest => "\n    " ++ valueText item ++ "," ++ itemsText rest

def pairsText (separator : String) : List (String × Datum) → String
  | [] => if separator.isEmpty then "" else " "
  | (name, value) :: rest =>
    separator ++ " " ++ nameText name ++ " = " ++ valueText value ++ pairsText "," rest

end

/-! ## Tables -/

def areTables : List Datum → Bool
  | [] => false
  | items => items.all fun
    | .table _ => true
    | _ => false

def isLine : Datum → Bool
  | .null | .table _ => false
  | .list items => !areTables items
  | _ => true

def linesText (entries : List (String × Datum)) : String :=
  String.join ((entries.filter fun (_, value) => isLine value).map fun (name, value) =>
    nameText name ++ " = " ++ valueText value ++ "\n")

/-- The header of a table, if it needs one: a table that holds nothing but tables
is implied by them. -/
def headerText (path : List String) (repeated : Bool) (entries : List (String × Datum)) :
    String :=
  let name := ".".intercalate (path.map nameText)
  if repeated then "\n[[" ++ name ++ "]]\n"
  else if entries.isEmpty || entries.any fun (_, value) => isLine value then
    "\n[" ++ name ++ "]\n"
  else ""

mutual

def sectionsText (path : List String) : List (String × Datum) → String
  | [] => ""
  | (name, .table entries) :: rest =>
    headerText (path ++ [name]) false entries ++ linesText entries
      ++ sectionsText (path ++ [name]) entries ++ sectionsText path rest
  | (name, .list items) :: rest =>
    (if areTables items then repeatedText (path ++ [name]) items else "")
      ++ sectionsText path rest
  | _ :: rest => sectionsText path rest

def repeatedText (path : List String) : List Datum → String
  | [] => ""
  | .table entries :: rest =>
    headerText path true entries ++ linesText entries ++ sectionsText path entries
      ++ repeatedText path rest
  | _ :: rest => repeatedText path rest

end

mutual

/-- Whether data can be written: integers have to fit 64 bits with a sign. -/
def isWritable : Datum → Bool
  | .integer value => Datum.fitsInt64 value
  | .list items => areWritable items
  | .table entries => areEntriesWritable entries
  | _ => true

def areWritable : List Datum → Bool
  | [] => true
  | item :: rest => isWritable item && areWritable rest

def areEntriesWritable : List (String × Datum) → Bool
  | [] => true
  | (_, value) :: rest => isWritable value && areEntriesWritable rest

end

def write? (entries : List (String × Datum)) : Option String :=
  if areEntriesWritable entries then
    let text := linesText entries ++ sectionsText [] entries
    some (String.ofList (text.toList.dropWhile (· == '\n')))
  else none

end Ebms.Toml
