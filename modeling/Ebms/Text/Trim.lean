/-! # Blanks, letter case and cuts of text

Header fields and message texts are compared after blanks at their ends are
removed.  A blank is a character with the Unicode property White_Space; letter
case is ignored for ASCII letters only. -/

set_option autoImplicit false

namespace Ebms.Text

def isBlank (c : Char) : Bool :=
  let n := c.toNat
  (9 ≤ n && n ≤ 13) || n == 0x20 || n == 0x85 || n == 0xA0 || n == 0x1680
    || (0x2000 ≤ n && n ≤ 0x200A) || n == 0x2028 || n == 0x2029 || n == 0x202F
    || n == 0x205F || n == 0x3000

def dropEndWhile (drop : Char → Bool) (chars : List Char) : List Char :=
  (chars.reverse.dropWhile drop).reverse

def stripStart (drop : Char → Bool) (text : String) : String :=
  String.ofList (text.toList.dropWhile drop)

def stripEnd (drop : Char → Bool) (text : String) : String :=
  String.ofList (dropEndWhile drop text.toList)

def trim (text : String) : String :=
  String.ofList (dropEndWhile isBlank (text.toList.dropWhile isBlank))

def isAllBlank (text : String) : Bool := text.toList.all isBlank

def asciiLower (text : String) : String := String.ofList (text.toList.map Char.toLower)

def sameIgnoringCase (a b : String) : Bool := asciiLower a == asciiLower b

def cutAt (mark : Char) (chars : List Char) : Option (List Char × List Char) :=
  match chars.dropWhile (· != mark) with
  | [] => none
  | _ :: after => some (chars.takeWhile (· != mark), after)

def splitOnce (mark : Char) (text : String) : Option (String × String) :=
  (cutAt mark text.toList).map fun (before, after) =>
    (String.ofList before, String.ofList after)

/-- The pieces between successive `mark`s; `piece` holds the characters of the
current one, last one first, and `pieces` the finished ones. -/
def piecesFrom (mark : Char) (pieces : List String) (piece : List Char) :
    List Char → List String
  | [] => (String.ofList piece.reverse :: pieces).reverse
  | c :: rest =>
    if c = mark then piecesFrom mark (String.ofList piece.reverse :: pieces) [] rest
    else piecesFrom mark pieces (c :: piece) rest

/-- The pieces between successive `mark`s: one more than there are marks. -/
def pieces (mark : Char) (text : String) : List String :=
  piecesFrom mark [] [] text.toList

def endsWith (text ending : String) : Bool :=
  ending.toList.reverse.isPrefixOf text.toList.reverse

def startsWith (text start : String) : Bool :=
  start.toList.isPrefixOf text.toList

def after? (start text : String) : Option String :=
  if startsWith text start then
    some (String.ofList (text.toList.drop start.length))
  else none

def digit? (c : Char) : Option Nat :=
  if '0' ≤ c ∧ c ≤ '9' then some (c.toNat - 48) else none

/-- The number that decimal digits spell after the digits of `value`; none when
a character is no digit. -/
def decimalFrom (value : Nat) : List Char → Option Nat
  | [] => some value
  | c :: rest =>
    match digit? c with
    | some d => decimalFrom (10 * value + d) rest
    | none => none

def decimal? : List Char → Option Nat
  | [] => none
  | chars => decimalFrom 0 chars

def ofNat (value : Nat) : String := String.ofList (Nat.toDigits 10 value)

def padded (width value : Nat) : String :=
  let digits := Nat.toDigits 10 value
  String.ofList (List.replicate (width - digits.length) '0' ++ digits)

def ofInt (value : Int) : String :=
  if value < 0 then "-" ++ ofNat value.natAbs else ofNat value.natAbs

end Ebms.Text
