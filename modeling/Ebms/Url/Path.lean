import Ebms.Text.Trim

/-! # Paths of URLs

The path of a URL is a row of segments behind slashes.  Dot segments stand for
the place they are in or the one above, and are resolved as the path is read.  In
the URL of a file the first segment may be the letter of a drive, which no dots
lead out of. -/

set_option autoImplicit false

namespace Ebms.Url

def isSingleDot (segment : List Char) : Bool :=
  [".", "%2e"].contains (String.ofList (segment.map Char.toLower))

def isDoubleDot (segment : List Char) : Bool :=
  ["..", ".%2e", "%2e.", "%2e%2e"].contains (String.ofList (segment.map Char.toLower))

/-- Whether a segment is the letter of a drive with a colon or a bar. -/
def isDrive : List Char → Bool
  | [letter, mark] => letter.isAlpha && (mark == ':' || mark == '|')
  | _ => false

/-- Whether a segment starts with a drive, a backslash behind it if anything. -/
def startsWithDrive (segment : List Char) : Bool :=
  isDrive (segment.take 2) && [none, some '\\'].contains (segment.drop 2).head?

structure PathSoFar where
  reversed : List Char
  /-- Whether a drive has been read, which takes the place of the host. -/
  hasDrive : Bool
  deriving DecidableEq, Repr, Inhabited

/-- Whether the slash at the end may be taken away: there is a segment before it,
and that is no drive. -/
def endsRemovably : List Char → Bool
  | '/' :: before =>
    let segment := before.takeWhile (· != '/')
    segment.length < before.length && !startsWithDrive segment.reverse
  | _ => false

/-- The path without its last segment; a drive with a colon stays in the URL of a
file. -/
def withoutLast (isFile : Bool) (reversed : List Char) : List Char :=
  let segment := reversed.takeWhile (· != '/')
  if isFile && isDrive segment.reverse && segment.head? == some ':' then reversed
  else reversed.drop segment.length

def endsWithSlash (reversed : List Char) : Bool := reversed.head? == some '/'

namespace PathSoFar

def add (isFile : Bool) (path : PathSoFar) (segment : List Char) (isClosed : Bool) :
    PathSoFar :=
  let reversed := path.reversed
  if isDoubleDot segment then
    let above := withoutLast isFile
      (if endsRemovably reversed then reversed.drop 1 else reversed)
    { path with
      reversed := if isClosed && !endsWithSlash above then '/' :: above else above }
  else if isSingleDot segment then
    { path with reversed := if endsWithSlash reversed then reversed else '/' :: reversed }
  else
    let isFirstDrive := isFile && reversed == ['/'] && isDrive segment
    let segment := if isFirstDrive then segment.take 1 ++ [':'] else segment
    { reversed := (if isClosed then ['/'] else []) ++ segment.reverse ++ reversed
      hasDrive := path.hasDrive || isFirstDrive }

def addAll (isFile : Bool) (path : PathSoFar) : List (List Char) → PathSoFar
  | [] => path
  | [last] => path.add isFile last false
  | segment :: rest => addAll isFile (path.add isFile segment true) rest

def text (isFile : Bool) (path : PathSoFar) : String :=
  let chars := path.reversed.reverse
  String.ofList (if isFile then '/' :: chars.dropWhile (· == '/') else chars)

end PathSoFar

def resolve (isFile : Bool) (segments : List (List Char)) : PathSoFar :=
  PathSoFar.addAll isFile { reversed := ['/'], hasDrive := false } segments

end Ebms.Url
