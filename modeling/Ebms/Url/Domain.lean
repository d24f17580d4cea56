import Ebms.Url.Domain.Joining
import Ebms.Url.Domain.Letters
import Ebms.Url.Punycode

/-! # Domain names

A domain name is a row of labels with dots between them.  It may be written with
any letters; for the network each label has a form in ASCII, and names that read
alike have the same one. -/

set_option autoImplicit false

namespace Ebms.Domain

def isForbidden (c : Char) : Bool :=
  c.toNat ≤ 32 || c.toNat == 127 || "%#/:<>?@[\\]^|".toList.contains c

def longestLabel : Nat := 1000

def longestCode : Nat := 2000

def isAscii (text : List Char) : Bool := text.all (·.toNat < 128)

/-- What a label in ASCII starts with when it stands for one beyond it. -/
def codeMark : List Char := "xn--".toList

/-- Whether a label beyond ASCII is well formed: it starts with no mark, has no
idle joiner and is not too long. -/
def isSound (label : List Char) : Bool :=
  !label.head?.any isMark && joinersMatter [] label && label.length ≤ longestLabel

/-- The label that a code stands for.  It has to be in its plain form already. -/
def decoded? (code : List Char) : Option (List Char) :=
  if !isAscii code || [none, some '-'].contains code.getLast? || longestCode < code.length then none
  else do
    let text ← Punycode.decode? code
    let plain ← plainText? text
    if plain = text && !text.any (fun c => c == '.' || isForbidden c) && isSound text then
      some text
    else none

/-- A label as it reads, and its form in ASCII. -/
structure Label where
  text : List Char
  ascii : List Char
  deriving DecidableEq, Repr, Inhabited

def label? (plain : List Char) : Option Label :=
  if codeMark.isPrefixOf plain then
    (decoded? (plain.drop codeMark.length)).map fun text => { text, ascii := plain }
  else if isAscii plain then some { text := plain, ascii := plain }
  else if isSound plain then
    some { text := plain, ascii := codeMark ++ Punycode.encode plain }
  else none

def labels? (name : String) : Option (List Label) := do
  let plain ← plainText? name.toList
  if plain.any isForbidden then none
  else
    let labels ← (Text.pieces '.' (String.ofList plain)).mapM fun label => label? label.toList
    if labels.any (holdsRightToLeft ·.text) && !labels.all (isOneWay ·.text) then none
    else some labels

def ascii? (name : String) : Option String :=
  (labels? name).map fun labels =>
    ".".intercalate (labels.map fun label => String.ofList label.ascii)

end Ebms.Domain
