import Ebms.Envelope.Reading

/-! # Multipart bodies

A SOAP document and its attachments travel as the parts of a multipart/related
body.  Parts stand between delimiter lines; the line break before a delimiter
belongs to it, so that any data can be a part.  When reading, the root is the
part that the start parameter names, or the first one. -/

set_option autoImplicit false

namespace Ebms.Multipart

def rootContentId : String := "root.message@as4-core"

def defaultMediaType : String := "application/octet-stream"

def lineBreak : Bytes := [0x0D, 0x0A]

def dashes : Bytes := [0x2D, 0x2D]

def isMultipart (contentType : String) : Bool :=
  Text.startsWith (Text.asciiLower (Text.stripStart Text.isBlank contentType))
    "multipart/related"

def stripBrackets (text : String) : String :=
  Text.stripEnd (· == '>') (Text.stripStart (· == '<') text)

/-! ## Writing -/

def boundaryOf (token : String) : String := "MIMEBoundary_" ++ token

def writePart (boundary mediaType contentId : String) (data : Bytes) : Bytes :=
  Bytes.ofText ("--" ++ boundary ++ "\r\nContent-Type: " ++ mediaType
      ++ "\r\nContent-Transfer-Encoding: binary\r\nContent-ID: <" ++ contentId ++ ">\r\n\r\n")
    ++ data ++ lineBreak

def contentType (boundary soapType : String) : String :=
  "multipart/related; boundary=\"" ++ boundary ++ "\"; type=\"" ++ soapType
    ++ "\"; start=\"<" ++ rootContentId ++ ">\""

def write (boundary soapType : String) (soap : Bytes) (attachments : List Attachment) :
    Bytes :=
  writePart boundary (soapType ++ "; charset=UTF-8") rootContentId soap
    ++ attachments.flatMap (fun a => writePart boundary a.mediaType a.contentId a.data)
    ++ Bytes.ofText ("--" ++ boundary ++ "--") ++ lineBreak

/-! ## Reading -/

/-- The value of a parameter of a content type: the first of that name, in any
letter case, without the quotes around its value. -/
def parameter? (contentType name : String) : Option String :=
  ((Text.pieces ';' contentType).drop 1).findSome? fun piece =>
    match Text.splitOnce '=' piece with
    | some (key, value) =>
      if Text.sameIgnoringCase (Text.trim key) name then
        some (Text.stripEnd (· == '"') (Text.stripStart (· == '"') (Text.trim value)))
      else none
    | none => none

/-- Looks for delimiters at the start of a line.  `found` holds the offsets so
far, last one first; `position` is the offset of the next byte, `skip` the
number of bytes that an earlier delimiter still covers; `afterReturn` says that
the byte before was a carriage return, `atLineStart` that a line starts here. -/
def offsetsFrom (delimiter : Bytes) (found : List Nat) (position skip : Nat)
    (afterReturn atLineStart : Bool) : Bytes → List Nat
  | [] => found.reverse
  | byte :: rest =>
    let nextAfterReturn := byte == 0x0D
    let nextAtLineStart := afterReturn && byte == 0x0A
    match skip with
    | skip + 1 =>
      offsetsFrom delimiter found (position + 1) skip nextAfterReturn nextAtLineStart rest
    | 0 =>
      if delimiter.isPrefixOf (byte :: rest) then
        offsetsFrom delimiter (if atLineStart then position :: found else found)
          (position + 1) (delimiter.length - 1) nextAfterReturn nextAtLineStart rest
      else
        offsetsFrom delimiter found (position + 1) 0 nextAfterReturn nextAtLineStart rest

def delimiterOffsets (body delimiter : Bytes) : List Nat :=
  offsetsFrom delimiter [] 0 0 false true body

/-- The offset after the line break that follows an offset; the end of the body
when there is none. -/
def skipLine (body : Bytes) (offset : Nat) : Nat :=
  match Bytes.splitOnce lineBreak (body.drop offset) with
  | some (line, _) => offset + line.length + 2
  | none => body.length

structure Part where
  mediaType : Option String
  contentId : Option String
  data : Bytes
  deriving DecidableEq, Repr, Inhabited

/-- The lines between line breaks; `lines` holds the finished ones, last one
first, and `line` the characters of the current one, last one first. -/
def linesFrom (lines : List (List Char)) (line : List Char) : List Char → List (List Char)
  | [] => (line.reverse :: lines).reverse
  | '\r' :: '\n' :: rest => linesFrom (line.reverse :: lines) [] rest
  | c :: rest => linesFrom lines (c :: line) rest

/-- Takes a header line into account.  Only the media type and the content id
matter, and the last line of a name counts. -/
def Part.addHeader (part : Part) (line : List Char) : Part :=
  match Text.splitOnce ':' (String.ofList line) with
  | none => part
  | some (name, value) =>
    let name := Text.trim name
    let value := Text.trim value
    if Text.sameIgnoringCase name "content-type" then { part with mediaType := some value }
    else if Text.sameIgnoringCase name "content-id" then
      { part with contentId := some (stripBrackets value) }
    else part

def Part.ofBytes (raw : Bytes) : Except MultipartFault Part :=
  match Bytes.splitOnce (lineBreak ++ lineBreak) raw with
  | none => .error .unterminatedHeader
  | some (header, data) =>
    match Bytes.text? header with
    | none => .error .headerNotText
    | some header =>
      .ok ((linesFrom [] [] header.toList).foldl Part.addHeader
        { mediaType := none, contentId := none, data })

/-- The parts between delimiters at some offsets, and whether a closing
delimiter was met.  What follows that one does not count. -/
def partsAt (body : Bytes) (width : Nat) : List Nat → Except MultipartFault (List Part × Bool)
  | [] => .ok ([], false)
  | offset :: others =>
    let after := offset + width
    if dashes.isPrefixOf (body.drop after) then .ok ([], true)
    else
      match others with
      | [] => .ok ([], false)
      | next :: _ =>
        let start := skipLine body after
        let stop := max (next - 2) start
        match Part.ofBytes ((body.drop start).take (stop - start)) with
        | .error fault => .error fault
        | .ok part =>
          match partsAt body width others with
          | .error fault => .error fault
          | .ok (parts, closed) => .ok (part :: parts, closed)

def Part.attachment (part : Part) : Except MultipartFault Attachment :=
  match part.contentId with
  | none => .error .missingContentId
  | some contentId =>
    .ok { contentId, mediaType := part.mediaType.getD defaultMediaType, data := part.data }

structure Related where
  root : Bytes
  attachments : List Attachment
  deriving DecidableEq, Repr, Inhabited

/-- Chooses the root among the parts; the others, in order, are attachments. -/
def assemble (start : Option String) (parts : List Part) : Except MultipartFault Related := do
  let rootIndex ← match start with
    | none => .ok 0
    | some start =>
      match parts.findIdx? (·.contentId == some start) with
      | some index => .ok index
      | none => .error (.missingStart start)
  match parts[rootIndex]? with
  | none => .error .noParts
  | some root =>
    let attachments ← (parts.eraseIdx rootIndex).mapM Part.attachment
    .ok { root := root.data, attachments }

def read (contentType : String) (body : Bytes) : Except MultipartFault Related :=
  match parameter? contentType "boundary" with
  | none => .error .missingBoundary
  | some boundary =>
    let delimiter := dashes ++ Bytes.ofText boundary
    match delimiterOffsets body delimiter with
    | [] => .error .noDelimiter
    | offsets =>
      match partsAt body delimiter.length offsets with
      | .error fault => .error fault
      | .ok (_, false) => .error .notClosed
      | .ok (parts, true) => assemble ((parameter? contentType "start").map stripBrackets) parts

end Ebms.Multipart
