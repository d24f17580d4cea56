import Ebms.Text.Trim

/-! # JSON

Documents in JSON as values, read strictly and written without blanks.  A number
is kept as its literal, so that no digit is lost.  An object keeps its members in
order, repeated names included. -/

set_option autoImplicit false

namespace Ebms

inductive Json where
  | null
  | bool (value : Bool)
  | number (literal : String)
  | string (text : String)
  | array (items : List Json)
  | object (members : List (String × Json))
  deriving Inhabited

namespace Json

/-! ## Writing -/

def writtenChar (c : Char) : List Char :=
  if c = '"' then ['\\', '"']
  else if c = '\\' then ['\\', '\\']
  else if c.toNat = 8 then ['\\', 'b']
  else if c.toNat = 12 then ['\\', 'f']
  else if c = '\n' then ['\\', 'n']
  else if c = '\r' then ['\\', 'r']
  else if c = '\t' then ['\\', 't']
  else if c.toNat < 32 then
    ['\\', 'u', '0', '0', Nat.digitChar (c.toNat / 16), Nat.digitChar (c.toNat % 16)]
  else [c]

def writtenString (text : String) : String :=
  String.ofList ('"' :: (text.toList.flatMap writtenChar ++ ['"']))

mutual

def render : Json → String
  | .null => "null"
  | .bool true => "true"
  | .bool false => "false"
  | .number literal => literal
  | .string text => writtenString text
  | .array items => "[" ++ renderItems items ++ "]"
  | .object members => "\x7b" ++ renderMembers members ++ "\x7d"

def renderItems : List Json → String
  | [] => ""
  | [item] => item.render
  | item :: rest => item.render ++ "," ++ renderItems rest

def renderMembers : List (String × Json) → String
  | [] => ""
  | [(name, value)] => writtenString name ++ ":" ++ value.render
  | (name, value) :: rest =>
    writtenString name ++ ":" ++ value.render ++ "," ++ renderMembers rest

end

/-! ## Reading -/

def isBlank (c : Char) : Bool := c == ' ' || c == '\t' || c == '\n' || c == '\r'

def hexFour? : List Char → Option (Nat × List Char)
  | a :: b :: c :: d :: rest => do
    let digit (x : Char) : Option Nat :=
      if '0' ≤ x ∧ x ≤ '9' then some (x.toNat - 48)
      else if 'a' ≤ x ∧ x ≤ 'f' then some (x.toNat - 87)
      else if 'A' ≤ x ∧ x ≤ 'F' then some (x.toNat - 55)
      else none
    some ((((← digit a) * 16 + (← digit b)) * 16 + (← digit c)) * 16 + (← digit d), rest)
  | _ => none

/-- The character that a `u` escape stands for.  A code above the basic plane
is written as two escapes; half of such a pair alone is no character. -/
def unicodeEscape? (chars : List Char) : Option (Char × List Char) := do
  let (high, rest) ← hexFour? chars
  if 0xD800 ≤ high ∧ high < 0xDC00 then
    match rest with
    | '\\' :: 'u' :: rest => do
      let (low, rest) ← hexFour? rest
      if 0xDC00 ≤ low ∧ low < 0xE000 then
        some (Char.ofNat (0x10000 + (high - 0xD800) * 0x400 + (low - 0xDC00)), rest)
      else none
    | _ => none
  else if 0xDC00 ≤ high ∧ high < 0xE000 then none
  else some (Char.ofNat high, rest)

def shortEscape? (letter : Char) : Option Char :=
  if letter = '"' ∨ letter = '\\' ∨ letter = '/' then some letter
  else if letter = 'b' then some (Char.ofNat 8)
  else if letter = 'f' then some (Char.ofNat 12)
  else if letter = 'n' then some '\n'
  else if letter = 'r' then some '\r'
  else if letter = 't' then some '\t'
  else none

/-- The rest of a string after its opening quote; `read` holds the characters so
far, last one first.  `fuel` bounds the number of characters. -/
def stringFrom (read : List Char) : Nat → List Char → Option (String × List Char)
  | 0, _ => none
  | _ + 1, [] => none
  | fuel + 1, c :: rest =>
    if c = '"' then some (String.ofList read.reverse, rest)
    else if c = '\\' then
      match rest with
      | [] => none
      | 'u' :: rest =>
        match unicodeEscape? rest with
        | some (value, rest) => stringFrom (value :: read) fuel rest
        | none => none
      | letter :: rest =>
        match shortEscape? letter with
        | some value => stringFrom (value :: read) fuel rest
        | none => none
    else if c.toNat < 32 then none
    else stringFrom (c :: read) fuel rest

def digits? (chars : List Char) : Option (List Char × List Char) :=
  match chars.takeWhile Char.isDigit with
  | [] => none
  | digits => some (digits, chars.dropWhile Char.isDigit)

def fraction? : List Char → Option (List Char × List Char)
  | '.' :: rest => (digits? rest).map fun (digits, rest) => ('.' :: digits, rest)
  | chars => some ([], chars)

def exponent? : List Char → Option (List Char × List Char)
  | letter :: rest =>
    if letter = 'e' ∨ letter = 'E' then
      match rest with
      | sign :: more =>
        if sign = '+' ∨ sign = '-' then
          (digits? more).map fun (digits, rest) => (letter :: sign :: digits, rest)
        else (digits? rest).map fun (digits, rest) => (letter :: digits, rest)
      | [] => none
    else some ([], letter :: rest)
  | [] => some ([], [])

def number? (chars : List Char) : Option (String × List Char) := do
  let (sign, rest) := match chars with
    | '-' :: rest => (['-'], rest)
    | _ => ([], chars)
  let (whole, rest) ← digits? rest
  if whole.length > 1 ∧ whole.head? = some '0' then none
  else
    let (fraction, rest) ← fraction? rest
    let (exponent, rest) ← exponent? rest
    some (String.ofList (sign ++ whole ++ fraction ++ exponent), rest)

mutual

/-- The value at the start, and what follows it.  `fuel` bounds the nesting and
the number of values. -/
def valueFrom : Nat → List Char → Option (Json × List Char)
  | 0, _ => none
  | fuel + 1, chars =>
    match chars.dropWhile isBlank with
    | '\x7b' :: rest =>
      match rest.dropWhile isBlank with
      | '\x7d' :: rest => some (.object [], rest)
      | rest => membersFrom [] fuel rest
    | '[' :: rest =>
      match rest.dropWhile isBlank with
      | ']' :: rest => some (.array [], rest)
      | rest => itemsFrom [] fuel rest
    | '"' :: rest => (stringFrom [] (rest.length + 1) rest).map fun (s, rest) => (.string s, rest)
    | 't' :: 'r' :: 'u' :: 'e' :: rest => some (.bool true, rest)
    | 'f' :: 'a' :: 'l' :: 's' :: 'e' :: rest => some (.bool false, rest)
    | 'n' :: 'u' :: 'l' :: 'l' :: rest => some (.null, rest)
    | rest => (number? rest).map fun (literal, rest) => (.number literal, rest)

def itemsFrom (read : List Json) : Nat → List Char → Option (Json × List Char)
  | 0, _ => none
  | fuel + 1, chars =>
    match valueFrom fuel chars with
    | none => none
    | some (item, rest) =>
      match rest.dropWhile isBlank with
      | ',' :: rest => itemsFrom (item :: read) fuel rest
      | ']' :: rest => some (.array (item :: read).reverse, rest)
      | _ => none

def membersFrom (read : List (String × Json)) : Nat → List Char → Option (Json × List Char)
  | 0, _ => none
  | fuel + 1, chars =>
    match chars.dropWhile isBlank with
    | '"' :: rest =>
      match stringFrom [] (rest.length + 1) rest with
      | none => none
      | some (name, rest) =>
        match rest.dropWhile isBlank with
        | ':' :: rest =>
          match valueFrom fuel rest with
          | none => none
          | some (value, rest) =>
            match rest.dropWhile isBlank with
            | ',' :: rest => membersFrom ((name, value) :: read) fuel rest
            | '\x7d' :: rest => some (.object ((name, value) :: read).reverse, rest)
            | _ => none
        | _ => none
    | _ => none

end

def ofText? (text : String) : Option Json :=
  let chars := text.toList
  match valueFrom (chars.length + 1) chars with
  | some (value, rest) => if rest.all isBlank then some value else none
  | none => none

/-! ## Members and numbers -/

def member? (value : Json) (name : String) : Option Json :=
  match value with
  | .object members => (members.find? (·.1 == name)).map (·.2)
  | _ => none

def ofNat (value : Nat) : Json := .number (Text.ofNat value)

def ofInt (value : Int) : Json := .number (Text.ofInt value)

/-- The integer that the literal of a number spells; none with a fraction, an
exponent or a negative zero. -/
def integer? : Json → Option Int
  | .number literal =>
    match literal.toList with
    | '-' :: digits =>
      (Text.decimal? digits).bind fun n => if n = 0 then none else some (-(n : Int))
    | digits => (Text.decimal? digits).map Int.ofNat
  | _ => none

end Json

end Ebms
