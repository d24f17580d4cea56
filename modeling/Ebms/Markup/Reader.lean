import Ebms.Markup.Element
import Ebms.Markup.Escape

/-! # Reading markup

A document is read tag by tag into its root element.  Comments, processing
instructions, declarations and text outside the root leave no trace; character
data and literal sections inside an element join its text.  Names may be empty;
attributes need quotes and may not repeat. -/

set_option autoImplicit false

namespace Ebms

inductive MarkupFault where
  /-- A tag, comment, section or instruction does not end or start as it must. -/
  | unclosedMarkup
  | unmatchedEnd
  | malformedAttribute
  | malformedText
  | emptyDoctype
  | multipleRoots
  | unexpectedEnd
  | stated (description : String)
  deriving DecidableEq, Repr, Inhabited

namespace MarkupFault

def message : MarkupFault → String
  | .unclosedMarkup => "markup is not closed"
  | .unmatchedEnd => "end tag does not match"
  | .malformedAttribute => "malformed attribute"
  | .malformedText => "malformed character data"
  | .emptyDoctype => "document type without a name"
  | .multipleRoots => "multiple root elements"
  | .unexpectedEnd => "unexpected end of document"
  | .stated description => description

end MarkupFault

namespace Markup

def isTagBlank (byte : UInt8) : Bool :=
  byte == 0x20 || byte == 0x0D || byte == 0x0A || byte == 0x09

/-- A piece of a document that counts for its elements. -/
inductive Token where
  | opening (tag : Bytes)
  | standalone (tag : Bytes)
  | closing (name : Bytes)
  | text (raw : Bytes)
  | literal (raw : Bytes)
  deriving DecidableEq, Repr, Inhabited

/-- The content of a tag and what follows its closing bracket.  A bracket inside
quotes does not close; `quote` is the quotation mark still open, and `passed`
the content so far, last byte first. -/
def splitTag (quote : Option UInt8) (passed : Bytes) : Bytes → Option (Bytes × Bytes)
  | [] => none
  | byte :: rest =>
    match quote with
    | none =>
      if byte = 0x3E then some (passed.reverse, rest)
      else if byte = 0x27 ∨ byte = 0x22 then splitTag (some byte) (byte :: passed) rest
      else splitTag none (byte :: passed) rest
    | some mark =>
      splitTag (if byte = mark then none else some mark) (byte :: passed) rest

/-- The content of a document type declaration and what follows it; brackets
inside nest to `depth`. -/
def splitDoctype (depth : Nat) (passed : Bytes) : Bytes → Option (Bytes × Bytes)
  | [] => none
  | byte :: rest =>
    if byte = 0x3C then splitDoctype (depth + 1) (byte :: passed) rest
    else if byte = 0x3E then
      match depth with
      | 0 => some (passed.reverse, rest)
      | depth + 1 => splitDoctype depth (byte :: passed) rest
    else splitDoctype depth (byte :: passed) rest

/-- The name in an end tag: blanks after it do not count, unless there is
nothing else. -/
def closingName (content : Bytes) : Bytes :=
  let trimmed := (content.reverse.dropWhile isTagBlank).reverse
  if trimmed.isEmpty then content else trimmed

def declarationToken (input : Bytes) : Except MarkupFault (Option Token × Bytes) :=
  if (Bytes.ofText "--").isPrefixOf input then
    match Bytes.splitOnce (Bytes.ofText "-->") (input.drop 2) with
    | some (_, rest) => .ok (none, rest)
    | none => .error .unclosedMarkup
  else if (Bytes.ofText "[CDATA[").isPrefixOf input then
    match Bytes.splitOnce (Bytes.ofText "]]>") (input.drop 7) with
    | some (raw, rest) => .ok (some (.literal raw), rest)
    | none => .error .unclosedMarkup
  else
    match input with
    | [] => .error .unclosedMarkup
    | first :: _ =>
      if first = 0x44 ∨ first = 0x64 then
        match splitDoctype 0 [] input with
        | some (content, rest) =>
          let keyword := (content.take 7).map fun b => (Char.ofNat b.toNat).toUpper
          if keyword = "DOCTYPE".toList then
            if (content.drop 7).all isTagBlank then .error .emptyDoctype
            else .ok (none, rest)
          else .error .unclosedMarkup
        | none => .error .unclosedMarkup
      else .error .unclosedMarkup

def instructionToken (input : Bytes) : Except MarkupFault (Option Token × Bytes) :=
  match input with
  | 0x3E :: _ => .error .unclosedMarkup
  | _ =>
    match Bytes.splitOnce (Bytes.ofText "?>") input with
    | some (_, rest) => .ok (none, rest)
    | none => .error .unclosedMarkup

def startToken (content : Bytes) : Token :=
  if content.getLast? = some 0x2F then .standalone content.dropLast else .opening content

/-- The piece that starts after `<`, and what follows it.  Pieces that leave no
trace give no token. -/
def markupToken (input : Bytes) : Except MarkupFault (Option Token × Bytes) :=
  match input with
  | [] => .error .unclosedMarkup
  | 0x21 :: rest => declarationToken rest
  | 0x3F :: rest => instructionToken rest
  | 0x2F :: rest =>
    match splitTag none [] rest with
    | some (content, rest) => .ok (some (.closing (closingName content)), rest)
    | none => .error .unclosedMarkup
  | _ =>
    match splitTag none [] input with
    | some (content, rest) => .ok (some (startToken content), rest)
    | none => .error .unclosedMarkup

def nextToken (input : Bytes) : Except MarkupFault (Option Token × Bytes) :=
  match input with
  | 0x3C :: rest => markupToken rest
  | _ => .ok (some (.text (input.takeWhile (· != 0x3C))), input.dropWhile (· != 0x3C))

def attributesFrom (seen : List (Bytes × Bytes)) :
    Nat → Bytes → Option (List (Bytes × Bytes))
  | 0, input => if input.all isTagBlank then some seen.reverse else none
  | fuel + 1, input =>
    match input.dropWhile isTagBlank with
    | [] => some seen.reverse
    | first :: rest =>
      let key := first :: rest.takeWhile fun b => b != 0x3D && !isTagBlank b
      match (rest.dropWhile fun b => b != 0x3D && !isTagBlank b).dropWhile isTagBlank with
      | 0x3D :: afterEquals =>
        if seen.any (·.1 == key) then none
        else
          match afterEquals.dropWhile isTagBlank with
          | mark :: value =>
            if mark = 0x22 ∨ mark = 0x27 then
              match value.dropWhile (· != mark) with
              | _ :: rest => attributesFrom ((key, value.takeWhile (· != mark)) :: seen) fuel rest
              | [] => none
            else none
          | [] => none
      | _ => none

def attributes? (input : Bytes) : Option (List (Bytes × Bytes)) :=
  attributesFrom [] input.length input

def attributeText? (pair : Bytes × Bytes) : Option (String × String) := do
  let name ← Bytes.text? pair.1
  let value ← text? pair.2
  some (name, value)

def elementOfTag (tag : Bytes) : Except MarkupFault Element := do
  let name ← match Bytes.text? (tag.takeWhile (!isTagBlank ·)) with
    | some name => .ok name
    | none => .error .malformedText
  match attributes? (tag.dropWhile (!isTagBlank ·)) with
  | none => .error .malformedAttribute
  | some raw =>
    match raw.mapM attributeText? with
    | none => .error .malformedText
    | some attributes => .ok { name, attributes, children := [], text := "" }

/-- A document partly read: the open elements, innermost first, and the root
element once it is closed. -/
structure Reading where
  openElements : List Element
  root : Option Element
  deriving Inhabited

namespace Reading

def start : Reading := { openElements := [], root := none }

def attach (state : Reading) (finished : Element) : Except MarkupFault Reading :=
  match state.openElements with
  | parent :: outer =>
    .ok { state with
      openElements := { parent with children := parent.children ++ [finished] } :: outer }
  | [] =>
    match state.root with
    | none => .ok { state with root := some finished }
    | some _ => .error .multipleRoots

def addText (state : Reading) (text : Option String) : Except MarkupFault Reading :=
  match state.openElements with
  | [] => .ok state
  | top :: outer =>
    match text with
    | none => .error .malformedText
    | some text => .ok { state with openElements := { top with text := top.text ++ text } :: outer }

def feed (state : Reading) : Token → Except MarkupFault Reading
  | .opening tag => do
    let opened ← elementOfTag tag
    .ok { state with openElements := opened :: state.openElements }
  | .standalone tag => do
    let finished ← elementOfTag tag
    state.attach finished
  | .closing name =>
    match state.openElements with
    | [] => .error .unmatchedEnd
    | top :: outer =>
      if Bytes.ofText top.name = name then
        attach { state with openElements := outer } top
      else .error .unmatchedEnd
  | .text raw => state.addText (text? raw)
  | .literal raw => state.addText (Bytes.text? raw)

end Reading

/-- Reads pieces until the input ends.  Each piece takes at least one byte, so
that as much `fuel` as there are bytes suffices. -/
def readFrom : Nat → Reading → Bytes → Except MarkupFault Reading
  | _, state, [] => .ok state
  | 0, state, _ :: _ => .ok state
  | fuel + 1, state, first :: rest =>
    match nextToken (first :: rest) with
    | .error fault => .error fault
    | .ok (none, rest) => readFrom fuel state rest
    | .ok (some token, rest) =>
      match state.feed token with
      | .error fault => .error fault
      | .ok state => readFrom fuel state rest

def dropByteOrderMark (input : Bytes) : Bytes :=
  match input with
  | 0xEF :: 0xBB :: 0xBF :: rest => rest
  | _ => input

def readDocument (input : Bytes) : Except MarkupFault (Option Element) :=
  let body := dropByteOrderMark input
  match readFrom body.length Reading.start body with
  | .error fault => .error fault
  | .ok state => if state.openElements.isEmpty then .ok state.root else .error .unexpectedEnd

end Markup

end Ebms
