import Ebms.Toml.Tables
import Ebms.Toml.Words

/-! # Reading TOML

A document is a list of lines: headers that open tables, and names with values
that go to the table opened last. -/

set_option autoImplicit false

namespace Ebms.Toml

def deepest : Nat := 79

mutual

/-- The value at the front.  `depth` bounds the nesting and `fuel` the number of
steps: twice as many as there are characters suffice, since an array takes two
steps for its bracket and at most two for each item. -/
def valueFrom (depth : Nat) : Nat → List Char → Option (Datum × List Char)
  | 0, _ => none
  | _ + 1, [] => none
  | fuel + 1, c :: rest =>
    if isQuotation c || isApostrophe c then
      (string? (c :: rest)).map fun (text, rest) => (.text text, rest)
    else if c = '[' then
      match depth with
      | 0 => none
      | depth + 1 => itemsFrom depth [] fuel rest
    else if c = '\x7b' then
      match depth with
      | 0 => none
      | depth + 1 =>
        match skipBlanks rest with
        | '\x7d' :: rest => some (.table [], rest)
        | rest => pairsFrom depth [] fuel rest
    else
      match c :: rest with
      | 't' :: 'r' :: 'u' :: 'e' :: rest => some (.bool true, rest)
      | 'f' :: 'a' :: 'l' :: 's' :: 'e' :: rest => some (.bool false, rest)
      | chars => numeric? chars

/-- The rest of an array; `read` holds the items so far, last one first. -/
def itemsFrom (depth : Nat) (read : List Datum) : Nat → List Char → Option (Datum × List Char)
  | 0, _ => none
  | fuel + 1, chars =>
    match skipLines fuel chars with
    | ']' :: rest => some (.list read.reverse, rest)
    | chars =>
      match valueFrom depth fuel chars with
      | none => none
      | some (item, rest) =>
        match skipLines fuel rest with
        | ',' :: rest => itemsFrom depth (item :: read) fuel rest
        | ']' :: rest => some (.list (item :: read).reverse, rest)
        | _ => none

def pairsFrom (depth : Nat) (entries : Entries) : Nat → List Char → Option (Datum × List Char)
  | 0, _ => none
  | fuel + 1, chars =>
    match path? chars with
    | some ((name, path), '=' :: rest) =>
      match valueFrom depth fuel (skipBlanks rest) with
      | none => none
      | some (datum, rest) =>
        match insert datum name path entries with
        | none => none
        | some entries =>
          match skipBlanks rest with
          | ',' :: rest => pairsFrom depth entries fuel rest
          | '\x7d' :: rest => some (.table (datumEntries entries), rest)
          | _ => none
    | _ => none

end

def pair? (header : List String) (entries : Entries) (fuel : Nat) (chars : List Char) :
    Option (Entries × List Char) :=
  match path? chars with
  | some ((name, path), '=' :: rest) => do
    let (datum, rest) ← valueFrom deepest fuel (skipBlanks rest)
    let entries ← inTable (insert datum name path) header entries
    some (entries, ← endOfLine? rest)
  | _ => none

def header? (entries : Entries) (chars : List Char) :
    Option ((Entries × List String) × List Char) :=
  match chars with
  | '[' :: rest =>
    match path? rest with
    | some ((name, path), ']' :: ']' :: rest) => do
      let rest ← endOfLine? rest
      some ((← atHeader addTable name path entries, name :: path), rest)
    | _ => none
  | _ =>
    match path? chars with
    | some ((name, path), ']' :: rest) => do
      let rest ← endOfLine? rest
      some ((← atHeader stateTable name path entries, name :: path), rest)
    | _ => none

/-- The rest of a document, whose lines go to the table under a header.  Each
line takes at least one character, so that as much `fuel` as there are
characters suffices. -/
def linesFrom (header : List String) (entries : Entries) : Nat → List Char → Option Entries
  | 0, _ => none
  | fuel + 1, chars =>
    match skipBlanks chars with
    | [] => some entries
    | '[' :: rest =>
      match header? entries rest with
      | some ((entries, header), rest) => linesFrom header entries fuel rest
      | none => none
    | c :: rest =>
      if c = '#' ∨ c = '\n' ∨ c = '\r' then
        match endOfLine? (c :: rest) with
        | some rest => linesFrom header entries fuel rest
        | none => none
      else
        match pair? header entries (2 * fuel + 2) (c :: rest) with
        | some (entries, rest) => linesFrom header entries fuel rest
        | none => none

def withoutMark : List Char → List Char
  | c :: rest => if c.toNat = 0xFEFF then rest else c :: rest
  | [] => []

def read? (text : String) : Option Datum :=
  let chars := withoutMark text.toList
  (linesFrom [] [] (chars.length + 1) chars).map fun entries => .table (datumEntries entries)

end Ebms.Toml
