import Ebms.Bytes
import Ebms.Datum
import Ebms.Time.Instant

/-! # Words of TOML

Blanks, comments, strings, names, numbers and dates of TOML 1.0.  Every reader
takes characters from the front and returns what is left behind them; without a
result the text is no TOML. -/

set_option autoImplicit false

namespace Ebms.Toml

/-! ## Lines -/

def skipBlanks (chars : List Char) : List Char := chars.dropWhile fun c => c == ' ' || c == '\t'

def lineBreak? : List Char → Option (List Char)
  | '\n' :: rest => some rest
  | '\r' :: '\n' :: rest => some rest
  | _ => none

/-- Whether a character may stand in a comment and within the lines of a
string. -/
def isPlain (c : Char) : Bool := c == '\t' || (decide (0x20 ≤ c.toNat) && c.toNat != 0x7F)

def skipComment : List Char → List Char
  | '#' :: rest => rest.dropWhile isPlain
  | chars => chars

/-- What is left behind the end of a line, comment and line break included; the
end of the text ends a line too. -/
def endOfLine? (chars : List Char) : Option (List Char) :=
  match skipComment (skipBlanks chars) with
  | [] => some []
  | rest => lineBreak? rest

def skipLines : Nat → List Char → List Char
  | 0, chars => chars
  | fuel + 1, chars =>
    match lineBreak? (skipComment (skipBlanks chars)) with
    | some rest => skipLines fuel rest
    | none => skipBlanks chars

/-! ## Strings -/

def isApostrophe (c : Char) : Bool := c.toNat == 39

def hexEscape? (count : Nat) (chars : List Char) : Option (Char × List Char) := do
  let digits := chars.take count
  if digits.length < count then none
  else
    let values ← digits.mapM Bytes.hexValue?
    let code := values.foldl (fun sum value => 16 * sum + value) 0
    if code < 0xD800 ∨ (0xE000 ≤ code ∧ code < 0x110000) then
      some (Char.ofNat code, chars.drop count)
    else none

def escape? : List Char → Option (Char × List Char)
  | 'b' :: rest => some (Char.ofNat 8, rest)
  | 't' :: rest => some ('\t', rest)
  | 'n' :: rest => some ('\n', rest)
  | 'f' :: rest => some (Char.ofNat 12, rest)
  | 'r' :: rest => some ('\r', rest)
  | '"' :: rest => some ('"', rest)
  | '\\' :: rest => some ('\\', rest)
  | 'u' :: rest => hexEscape? 4 rest
  | 'U' :: rest => hexEscape? 8 rest
  | _ => none

def basicFrom (read : List Char) : Nat → List Char → Option (String × List Char)
  | 0, _ => none
  | _ + 1, [] => none
  | fuel + 1, c :: rest =>
    if c = '"' then some (String.ofList read.reverse, rest)
    else if c = '\\' then
      match escape? rest with
      | some (value, rest) => basicFrom (value :: read) fuel rest
      | none => none
    else if isPlain c then basicFrom (c :: read) fuel rest
    else none

def literal? (chars : List Char) : Option (String × List Char) :=
  let inside := chars.takeWhile fun c => isPlain c && !isApostrophe c
  match chars.drop inside.length with
  | c :: rest => if isApostrophe c then some (String.ofList inside, rest) else none
  | [] => none

/-- What is left when a backslash ends a line: the next text, on whatever
line. -/
def skipEscapedBreak? (chars : List Char) : Option (List Char) :=
  (lineBreak? (skipBlanks chars)).map fun rest =>
    let isSpace (c : Char) : Bool := c == ' ' || c == '\t' || c == '\n'
    let rec skip (chars : List Char) : List Char :=
      match chars with
      | '\r' :: '\n' :: rest => skip rest
      | c :: rest => if isSpace c then skip rest else c :: rest
      | [] => []
    skip rest

def leadingQuotes (isQuote : Char → Bool) (chars : List Char) : Nat :=
  (chars.takeWhile isQuote).length

/-- The rest of a string over several lines.  Three quotes end it; one or two
more before them belong to it. -/
def multilineFrom (isQuote : Char → Bool) (escapes : Bool) (read : List Char) :
    Nat → List Char → Option (String × List Char)
  | 0, _ => none
  | _ + 1, [] => none
  | fuel + 1, c :: rest =>
    if isQuote c then
      let quotes := leadingQuotes isQuote (c :: rest)
      if 3 ≤ quotes then
        let kept := Nat.min (quotes - 3) 2
        some (String.ofList (read.reverse ++ List.replicate kept c), (c :: rest).drop (kept + 3))
      else multilineFrom isQuote escapes (c :: read) fuel rest
    else if escapes && c == '\\' then
      match skipEscapedBreak? rest with
      | some rest => multilineFrom isQuote escapes read fuel rest
      | none =>
        match escape? rest with
        | some (value, rest) => multilineFrom isQuote escapes (value :: read) fuel rest
        | none => none
    else if isPlain c then multilineFrom isQuote escapes (c :: read) fuel rest
    else
      match lineBreak? (c :: rest) with
      | some rest => multilineFrom isQuote escapes ('\n' :: read) fuel rest
      | none => none

/-- The rest of a string over several lines, whose first line break does not
count. -/
def multiline? (isQuote : Char → Bool) (escapes : Bool) (chars : List Char) :
    Option (String × List Char) :=
  multilineFrom isQuote escapes [] (chars.length + 1) ((lineBreak? chars).getD chars)

def isQuotation (c : Char) : Bool := c == '"'

def string? (chars : List Char) : Option (String × List Char) :=
  match chars with
  | [] => none
  | c :: rest =>
    if isQuotation c then
      if 3 ≤ leadingQuotes isQuotation chars then multiline? isQuotation true (chars.drop 3)
      else basicFrom [] (rest.length + 1) rest
    else if isApostrophe c then
      if 3 ≤ leadingQuotes isApostrophe chars then multiline? isApostrophe false (chars.drop 3)
      else literal? rest
    else none

/-! ## Names -/

def isBare (c : Char) : Bool := c.isAlphanum || c == '-' || c == '_'

def name? (chars : List Char) : Option (String × List Char) :=
  match chars with
  | [] => none
  | c :: rest =>
    if isQuotation c then basicFrom [] (rest.length + 1) rest
    else if isApostrophe c then literal? rest
    else
      match chars.takeWhile isBare with
      | [] => none
      | bare => some (String.ofList bare, chars.drop bare.length)

/-- The most names that a path may consist of. -/
def longestPath : Nat := 79

def pathFrom : Nat → List Char → Option ((String × List String) × List Char)
  | 0, _ => none
  | fuel + 1, chars => do
    let (name, rest) ← name? (skipBlanks chars)
    match skipBlanks rest with
    | '.' :: rest => do
      let ((next, more), rest) ← pathFrom fuel rest
      some ((name, next :: more), rest)
    | rest => some ((name, []), rest)

def path? (chars : List Char) : Option ((String × List String) × List Char) :=
  pathFrom longestPath chars

/-! ## Numbers -/

/-- The digits at the front, in which an underscore may stand between two; `read`
holds those so far, last one first. -/
def digitsFrom (isDigit : Char → Bool) (read : List Char) :
    List Char → Option (List Char × List Char)
  | [] => some (read.reverse, [])
  | '_' :: c :: rest => if isDigit c then digitsFrom isDigit (c :: read) rest else none
  | c :: rest =>
    if isDigit c then digitsFrom isDigit (c :: read) rest
    else if c = '_' then none
    else some (read.reverse, c :: rest)

def digits? (isDigit : Char → Bool) : List Char → Option (List Char × List Char)
  | [] => none
  | c :: rest => if isDigit c then digitsFrom isDigit [c] rest else none

/-- The whole part of a decimal number, without a zero in front of other
digits. -/
def whole? : List Char → Option (List Char × List Char)
  | '0' :: rest => some (['0'], rest)
  | chars => digits? Char.isDigit chars

def sign (chars : List Char) : List Char × List Char :=
  match chars with
  | '+' :: rest => (['+'], rest)
  | '-' :: rest => (['-'], rest)
  | _ => ([], chars)

def integer? (value : Int) : Option Datum :=
  if Datum.fitsInt64 value then some (.integer value) else none

def based? (base : Nat) (isDigit : Char → Bool) (chars : List Char) :
    Option (Datum × List Char) := do
  let (digits, rest) ← digits? isDigit chars
  let values ← digits.mapM Bytes.hexValue?
  let datum ← integer? (Int.ofNat (values.foldl (fun sum value => base * sum + value) 0))
  some (datum, rest)

def fraction? : List Char → Option (List Char × List Char)
  | '.' :: rest => (digits? Char.isDigit rest).map fun (digits, rest) => ('.' :: digits, rest)
  | chars => some ([], chars)

def exponent? : List Char → Option (List Char × List Char)
  | [] => some ([], [])
  | c :: rest =>
    if c = 'e' ∨ c = 'E' then
      let (sign, rest) := sign rest
      (digits? Char.isDigit rest).map fun (digits, rest) => ('e' :: sign ++ digits, rest)
    else some ([], c :: rest)

/-- The decimal number at the front, behind its sign.  One too large for a double
is none, unless it is negative. -/
def decimal? (sign chars : List Char) : Option (Datum × List Char) := do
  let (whole, rest) ← whole? chars
  let (fraction, rest) ← fraction? rest
  let (exponent, rest) ← exponent? rest
  if fraction.isEmpty && exponent.isEmpty then do
    let value ← Text.decimal? whole
    let datum ← integer? (if sign = ['-'] then -(value : Int) else value)
    some (datum, rest)
  else
    let value := Datum.floatOfLiteral (sign ++ whole ++ fraction ++ exponent)
    if value.isFinite || sign == ['-'] then some (.float value, rest) else none

def number? (chars : List Char) : Option (Datum × List Char) :=
  match chars with
  | '0' :: 'x' :: rest => based? 16 (fun c => (Bytes.hexValue? c).isSome) rest
  | '0' :: 'o' :: rest => based? 8 (fun c => decide ('0' ≤ c ∧ c ≤ '7')) rest
  | '0' :: 'b' :: rest => based? 2 (fun c => c == '0' || c == '1') rest
  | _ =>
    match sign chars with
    | (sign, 'i' :: 'n' :: 'f' :: rest) =>
      some (.float (if sign = ['-'] then -(1.0 / 0.0) else 1.0 / 0.0), rest)
    | (sign, 'n' :: 'a' :: 'n' :: rest) =>
      some (.float (if sign = ['-'] then -(0.0 / 0.0) else 0.0 / 0.0), rest)
    | (sign, rest) => decimal? sign rest

/-! ## Dates and times -/

def ranged? (count low high : Nat) (chars : List Char) : Option (Nat × List Char) := do
  let digits := chars.take count
  if digits.length < count then none
  else
    let value ← if digits.all Char.isDigit then Text.decimal? digits else none
    if low ≤ value ∧ value ≤ high then some (value, chars.drop count) else none

def after? (mark : Char) : List Char → Option (List Char)
  | c :: rest => if c = mark then some rest else none
  | [] => none

def date? (chars : List Char) : Option (List Char) := do
  let (year, rest) ← ranged? 4 0 9999 chars
  let (month, rest) ← ranged? 2 1 12 (← after? '-' rest)
  let (day, rest) ← ranged? 2 1 31 (← after? '-' rest)
  if day ≤ Day.daysInMonth year month then some rest else none

def startsTime (chars : List Char) : Bool :=
  ((ranged? 2 0 23 chars).bind fun (_, rest) => after? ':' rest).isSome

def time? (chars : List Char) : Option (List Char) := do
  let (_, rest) ← ranged? 2 0 23 chars
  let (_, rest) ← ranged? 2 0 59 (← after? ':' rest)
  let (_, rest) ← ranged? 2 0 60 (← after? ':' rest)
  match rest with
  | '.' :: rest =>
    match rest.takeWhile Char.isDigit with
    | [] => none
    | digits => some (rest.drop digits.length)
  | rest => some rest

def offset? (chars : List Char) : Option (List Char) :=
  match chars with
  | [] => some []
  | c :: rest =>
    if c = 'Z' ∨ c = 'z' then some rest
    else if c = '+' ∨ c = '-' then do
      let (_, rest) ← ranged? 2 0 23 rest
      let (_, rest) ← ranged? 2 0 59 (← after? ':' rest)
      some rest
    else some chars

def dateTime? (chars : List Char) : Option (List Char) := do
  let rest ← date? chars
  match rest with
  | c :: more =>
    if (c == 'T' || c == 't' || c == ' ') && startsTime more then do offset? (← time? more)
    else some rest
  | [] => some []

/-- Whether a date is at the front, which shows in the mark behind its year. -/
def startsDate (chars : List Char) : Bool :=
  ((ranged? 4 0 9999 chars).bind fun (_, rest) => after? '-' rest).isSome

def numeric? (chars : List Char) : Option (Datum × List Char) :=
  let moment (rest : Option (List Char)) : Option (Datum × List Char) :=
    rest.map fun rest =>
      (.moment (String.ofList (chars.take (chars.length - rest.length))), rest)
  if startsDate chars then moment (dateTime? chars)
  else if startsTime chars then moment (time? chars)
  else number? chars

end Ebms.Toml
