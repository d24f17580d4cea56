import Ebms.Multipart

/-! # Messages on the wire

A message without attachments travels as its SOAP document, one with
attachments as a multipart body around it.  A blank body is no message. -/

set_option autoImplicit false

namespace Ebms

structure WireMessage where
  contentType : String
  body : Bytes
  deriving DecidableEq, Repr, Inhabited

/-- The message that carries an envelope; `boundary` parts its attachments. -/
def Envelope.encode (boundary : String) (e : Envelope) : WireMessage :=
  if e.attachments.isEmpty then
    { contentType := e.soap.mediaType ++ "; charset=UTF-8", body := e.document }
  else
    { contentType := Multipart.contentType boundary e.soap.mediaType
      body := Multipart.write boundary e.soap.mediaType e.document e.attachments }

/-- An ASCII blank: space, tab, line feed, form feed or carriage return. -/
def isBlankByte (byte : UInt8) : Bool :=
  byte == 0x20 || byte == 0x09 || byte == 0x0A || byte == 0x0C || byte == 0x0D

def decodeRelated (contentType : String) (body : Bytes) : Except DecodeError Envelope :=
  match Multipart.read contentType body with
  | .error fault => .error (.multipart fault)
  | .ok parts => do
    let envelope ← Envelope.ofDocument parts.root
    .ok { envelope with attachments := parts.attachments }

/-- The envelope that a body carries; none when the body is blank. -/
def decode (contentType : Option String) (body : Bytes) :
    Except DecodeError (Option Envelope) :=
  if body.all isBlankByte then .ok none
  else
    match contentType.filter Multipart.isMultipart with
    | some contentType => (decodeRelated contentType body).map some
    | none => (Envelope.ofDocument body).map some

end Ebms
