import Ebms.Bytes
import Ebms.Text.Trim
import Ebms.Time.Instant

/-! # Message envelopes

An ebMS 3.0 message as a value: one message unit (a user message or one of
three signals) in a SOAP envelope with an empty body, an optional WS-Security
header, and attachments that the user message names by content id. -/

set_option autoImplicit false

namespace Ebms

inductive SoapVersion where
  | v11
  | v12
  deriving DecidableEq, Repr, Inhabited

namespace SoapVersion

def label : SoapVersion → String
  | .v11 => "1.1"
  | .v12 => "1.2"

def xmlNamespace : SoapVersion → String
  | .v11 => "http://schemas.xmlsoap.org/soap/envelope/"
  | .v12 => "http://www.w3.org/2003/05/soap-envelope"

def shortName : SoapVersion → String
  | .v11 => "S11"
  | .v12 => "S12"

def mediaType : SoapVersion → String
  | .v11 => "text/xml"
  | .v12 => "application/soap+xml"

def mustUnderstand : SoapVersion → String
  | .v11 => "1"
  | .v12 => "true"

def ofNamespace? (uri : String) : Option SoapVersion :=
  if uri = xmlNamespace .v11 then some .v11
  else if uri = xmlNamespace .v12 then some .v12
  else none

end SoapVersion

namespace Namespace

def ebms : String := "http://docs.oasis-open.org/ebxml-msg/ebms/v3.0/ns/core/200704/"

def security : String :=
  "http://docs.oasis-open.org/wss/2004/01/oasis-200401-wss-wssecurity-secext-1.0.xsd"

def utility : String :=
  "http://docs.oasis-open.org/wss/2004/01/oasis-200401-wss-wssecurity-utility-1.0.xsd"

def signature : String := "http://www.w3.org/2000/09/xmldsig#"

end Namespace

/-- The message partition channel of a message that names none. -/
def defaultChannel : String :=
  "http://docs.oasis-open.org/ebxml-msg/ebms/v3.0/ns/core/200704/defaultMPC"

def emptyChannelCode : String := "EBMS:0006"

/-- What every message unit says about itself. -/
structure MessageInfo where
  timestamp : Instant
  messageId : String
  refToMessageId : Option String
  deriving DecidableEq, Repr, Inhabited

structure Party where
  id : String
  idType : Option String
  role : String
  deriving DecidableEq, Repr, Inhabited

structure Property where
  name : String
  value : String
  deriving DecidableEq, Repr, Inhabited

/-- A payload named by reference, with its properties. -/
structure PartInfo where
  href : String
  properties : List Property
  deriving DecidableEq, Repr, Inhabited

structure UserMessage where
  info : MessageInfo
  channel : Option String
  sender : Party
  receiver : Party
  agreement : Option String
  service : String
  serviceType : Option String
  action : String
  conversation : String
  properties : List Property
  parts : List PartInfo
  deriving DecidableEq, Repr, Inhabited

inductive Severity where
  | warning
  | failure
  deriving DecidableEq, Repr, Inhabited

def Severity.label : Severity → String
  | .warning => "warning"
  | .failure => "failure"

structure EbmsError where
  code : String
  severity : Severity
  category : Option String
  refToMessage : Option String
  shortDescription : Option String
  description : Option String
  deriving DecidableEq, Repr, Inhabited

/-- The single unit that a message carries. -/
inductive MessageUnit where
  | user (message : UserMessage)
  | pullRequest (info : MessageInfo) (channel : String)
  | receipt (info : MessageInfo)
  | errorSignal (info : MessageInfo) (errors : List EbmsError)
  deriving DecidableEq, Repr, Inhabited

namespace MessageUnit

def info : MessageUnit → MessageInfo
  | .user message => message.info
  | .pullRequest info _ => info
  | .receipt info => info
  | .errorSignal info _ => info

def kind : MessageUnit → String
  | .user _ => "UserMessage"
  | .pullRequest .. => "PullRequest"
  | .receipt _ => "Receipt"
  | .errorSignal .. => "Error"

end MessageUnit

def UserMessage.effectiveChannel (message : UserMessage) : String :=
  message.channel.getD defaultChannel

def UserMessage.property? (message : UserMessage) (name : String) : Option String :=
  (message.properties.find? (·.name == name)).map (·.value)

/-- Errors which say nothing but that the pulled channel is empty: at least one,
and each of them the warning with the code for an empty channel. -/
def isEmptyChannel (errors : List EbmsError) : Bool :=
  !errors.isEmpty && errors.all fun error =>
    error.code == emptyChannelCode && error.severity == .warning

/-- A payload that travels beside the SOAP document. -/
structure Attachment where
  contentId : String
  mediaType : String
  data : Bytes
  deriving DecidableEq, Repr, Inhabited

def Attachment.href (attachment : Attachment) : String := "cid:" ++ attachment.contentId

inductive SignatureAlgorithm where
  | ed25519
  deriving DecidableEq, Repr, Inhabited

namespace SignatureAlgorithm

def uri : SignatureAlgorithm → String
  | .ed25519 => "http://www.w3.org/2021/04/xmldsig-more#eddsa-ed25519"

def name : SignatureAlgorithm → String
  | .ed25519 => "ed25519"

def ofUri? (uri : String) : Option SignatureAlgorithm :=
  if uri = SignatureAlgorithm.uri .ed25519 then some .ed25519 else none

def ofName? (name : String) : Option SignatureAlgorithm :=
  if name = SignatureAlgorithm.name .ed25519 then some .ed25519 else none

end SignatureAlgorithm

inductive DigestAlgorithm where
  | sha256
  | sha512
  deriving DecidableEq, Repr, Inhabited

namespace DigestAlgorithm

def uri : DigestAlgorithm → String
  | .sha256 => "http://www.w3.org/2001/04/xmlenc#sha256"
  | .sha512 => "http://www.w3.org/2001/04/xmlenc#sha512"

def name : DigestAlgorithm → String
  | .sha256 => "sha256"
  | .sha512 => "sha512"

def ofUri? (uri : String) : Option DigestAlgorithm :=
  if uri = DigestAlgorithm.uri .sha256 then some .sha256
  else if uri = DigestAlgorithm.uri .sha512 then some .sha512
  else none

def ofName? (name : String) : Option DigestAlgorithm :=
  if name = DigestAlgorithm.name .sha256 then some .sha256
  else if name = DigestAlgorithm.name .sha512 then some .sha512
  else none

end DigestAlgorithm

inductive KeyReferenceKind where
  | directReference
  | issuerSerial
  | keyIdentifier
  deriving DecidableEq, Repr, Inhabited

namespace KeyReferenceKind

def name : KeyReferenceKind → String
  | .directReference => "direct-reference"
  | .issuerSerial => "issuer-serial"
  | .keyIdentifier => "key-identifier"

def ofName? (name : String) : Option KeyReferenceKind :=
  [.directReference, .issuerSerial, .keyIdentifier].find? (·.name == name)

end KeyReferenceKind

/-- The signer's certificate as a signature names it: a token in the same
header, issuer and serial number, or the identifier of the key. -/
inductive KeyReference where
  | direct (uri : String)
  | issuerSerial (issuer : String) (serial : UInt64)
  | keyIdentifier (value : Bytes)
  deriving DecidableEq, Repr, Inhabited

def KeyReference.kind : KeyReference → KeyReferenceKind
  | .direct _ => .directReference
  | .issuerSerial .. => .issuerSerial
  | .keyIdentifier _ => .keyIdentifier

structure PartDigest where
  uri : String
  algorithm : DigestAlgorithm
  value : Bytes
  deriving DecidableEq, Repr, Inhabited

/-- What a signature value signs: the algorithm and the digests of the parts. -/
structure SignedInfo where
  algorithm : SignatureAlgorithm
  references : List PartDigest
  deriving DecidableEq, Repr, Inhabited

structure Signature where
  id : String
  signedInfo : SignedInfo
  value : Bytes
  key : KeyReference
  deriving DecidableEq, Repr, Inhabited

/-- When a header was made and when it ceases to be valid. -/
structure SecurityTimestamp where
  id : String
  created : Instant
  expires : Option Instant
  deriving DecidableEq, Repr, Inhabited

/-- The signer's certificate, encoded. -/
structure SecurityToken where
  id : String
  value : Bytes
  deriving DecidableEq, Repr, Inhabited

structure SecurityHeader where
  timestamp : Option SecurityTimestamp
  token : Option SecurityToken
  signature : Option Signature
  deriving DecidableEq, Repr, Inhabited

/-- A message with its envelope data, security header and attachments. -/
structure Envelope where
  soap : SoapVersion
  messagingId : String
  bodyId : String
  unit : MessageUnit
  security : Option SecurityHeader
  attachments : List Attachment
  deriving DecidableEq, Repr, Inhabited

namespace Envelope

/-- An unsigned envelope whose ids are made from one seed. -/
def ofUnit (seed : String) (soap : SoapVersion) (unit : MessageUnit)
    (attachments : List Attachment) : Envelope :=
  { soap
    messagingId := "_eb-" ++ seed
    bodyId := "_body-" ++ seed
    unit
    security := none
    attachments }

def messageId (e : Envelope) : String := e.unit.info.messageId

def idSuffix (e : Envelope) : String := (Text.after? "_body-" e.bodyId).getD e.bodyId

def signature? (e : Envelope) : Option Signature := e.security.bind (·.signature)

def isSigned (e : Envelope) : Bool := e.signature?.isSome

def userMessage? (e : Envelope) : Option UserMessage :=
  match e.unit with
  | .user message => some message
  | _ => none

/-- The first attachment with a content id. -/
def attachment? (e : Envelope) (contentId : String) : Option Attachment :=
  e.attachments.find? (·.contentId == contentId)

end Envelope

end Ebms
