import Ebms.Envelope.Markup
import Ebms.Markup.Reader
import Ebms.Text.Quoted

/-! # Envelopes from documents

The root element of a SOAP document is understood as an envelope.  Elements are
found by local name, the first of a name counts, and elements that the envelope
has no use for are passed over.  Parts are examined in a fixed order, and the
first one that is missing or malformed is the error. -/

set_option autoImplicit false

namespace Ebms

inductive MultipartFault where
  | missingBoundary
  | noDelimiter
  | unterminatedHeader
  | headerNotText
  | notClosed
  | missingStart (start : String)
  | noParts
  | missingContentId
  | stated (description : String)
  deriving DecidableEq, Repr, Inhabited

def MultipartFault.message : MultipartFault → String
  | .missingBoundary => "missing boundary parameter"
  | .noDelimiter => "no MIME boundary found in body"
  | .unterminatedHeader => "part without header terminator"
  | .headerNotText => "part headers are not UTF-8"
  | .notClosed => "missing closing boundary"
  | .missingStart start => "start part <" ++ start ++ "> not found"
  | .noParts => "multipart message has no parts"
  | .missingContentId => "attachment without Content-ID"
  | .stated description => description

/-- What makes a well-formed document no envelope. -/
inductive Malformation where
  | noRoot
  | unexpectedRoot (name : String)
  | unknownNamespace
  | bodyNotEmpty
  | missingAttribute (element name : String)
  | invalidTimestamp (text : String)
  | invalidBase64 (part : String)
  | invalidSerial (text : String)
  | unknownSeverity (text : String)
  | emptySignal
  | stated (description : String)
  deriving DecidableEq, Repr, Inhabited

namespace Malformation

def detail? : Malformation → Option String
  | .invalidTimestamp _ => some "not an RFC 3339 date and time"
  | .invalidBase64 _ => some "not in the standard alphabet with padding"
  | _ => none

def summary : Malformation → String
  | .noRoot => "document has no root element"
  | .unexpectedRoot name => "root element is " ++ name ++ ", expected Envelope"
  | .unknownNamespace => "unknown SOAP envelope namespace"
  | .bodyNotEmpty => "SOAP Body must be empty"
  | .missingAttribute element name => element ++ " lacks attribute " ++ name
  | .invalidTimestamp text => "invalid timestamp " ++ Text.quoted text
  | .invalidBase64 part => "invalid base64 in " ++ part
  | .invalidSerial text => "invalid serial number " ++ Text.quoted text
  | .unknownSeverity text => "unknown error severity " ++ text
  | .emptySignal => "SignalMessage carries no PullRequest, Receipt or Error"
  | .stated description => description

def message (m : Malformation) : String :=
  match m.detail? with
  | none => m.summary
  | some detail => m.summary ++ ": " ++ detail

end Malformation

/-- Why a received body is no message. -/
inductive DecodeError where
  | markup (fault : MarkupFault)
  | malformed (cause : Malformation)
  | missingElement (what : String)
  | unsupportedAlgorithm (uri : String)
  | multipart (fault : MultipartFault)
  | soapFault (reason : String)
  deriving DecidableEq, Repr, Inhabited

def DecodeError.message : DecodeError → String
  | .markup fault => "XML error: " ++ fault.message
  | .malformed cause => "Malformed envelope: " ++ cause.message
  | .missingElement what => "Missing element: " ++ what
  | .unsupportedAlgorithm uri => "Unsupported algorithm: " ++ uri
  | .multipart fault => "MIME error: " ++ fault.message
  | .soapFault reason => "SOAP fault: " ++ reason

namespace Element

def requiredAttribute (e : Element) (name : String) : Except DecodeError String :=
  match e.attribute? name with
  | some value => .ok value
  | none => .error (.malformed (.missingAttribute e.localName name))

def requiredChild (e : Element) (name : String) : Except DecodeError Element :=
  match e.child? name with
  | some found => .ok found
  | none => .error (.missingElement (name ++ " in " ++ e.localName))

def requiredText (e : Element) (name : String) : Except DecodeError String :=
  (e.requiredChild name).map (·.text)

end Element

def readOptional {α : Type} (read : Element → Except DecodeError α) :
    Option Element → Except DecodeError (Option α)
  | none => .ok none
  | some e => (read e).map some

def readInstant (text : String) : Except DecodeError Instant :=
  match Instant.ofText? (Text.trim text) with
  | some instant => .ok instant
  | none => .error (.malformed (.invalidTimestamp text))

def readBase64 (part text : String) : Except DecodeError Bytes :=
  match Base64.decode? (Text.trim text) with
  | some bytes => .ok bytes
  | none => .error (.malformed (.invalidBase64 part))

def MessageInfo.ofElement (e : Element) : Except DecodeError MessageInfo := do
  let timestamp ← readInstant (← e.requiredText "Timestamp")
  let messageId ← e.requiredText "MessageId"
  .ok { timestamp, messageId, refToMessageId := e.childText? "RefToMessageId" }

def Party.ofElement (e : Element) : Except DecodeError Party := do
  let id ← e.requiredChild "PartyId"
  let role ← e.requiredText "Role"
  .ok { id := id.text, idType := id.attribute? "type", role }

def Property.ofElement (e : Element) : Except DecodeError Property := do
  let name ← e.requiredAttribute "name"
  .ok { name, value := e.text }

def readProperties : Option Element → Except DecodeError (List Property)
  | none => .ok []
  | some e => (e.childrenNamed "Property").mapM Property.ofElement

def PartInfo.ofElement (e : Element) : Except DecodeError PartInfo := do
  let href ← e.requiredAttribute "href"
  let properties ← readProperties (e.child? "PartProperties")
  .ok { href, properties }

def readParts : Option Element → Except DecodeError (List PartInfo)
  | none => .ok []
  | some e => (e.childrenNamed "PartInfo").mapM PartInfo.ofElement

def UserMessage.ofElement (e : Element) : Except DecodeError UserMessage := do
  let parties ← e.requiredChild "PartyInfo"
  let collaboration ← e.requiredChild "CollaborationInfo"
  let service ← collaboration.requiredChild "Service"
  let parts ← readParts (e.child? "PayloadInfo")
  let info ← MessageInfo.ofElement (← e.requiredChild "MessageInfo")
  let sender ← Party.ofElement (← parties.requiredChild "From")
  let receiver ← Party.ofElement (← parties.requiredChild "To")
  let action ← collaboration.requiredText "Action"
  let conversation ← collaboration.requiredText "ConversationId"
  let properties ← readProperties (e.child? "MessageProperties")
  .ok
    { info
      channel := e.attribute? "mpc"
      sender
      receiver
      agreement := collaboration.childText? "AgreementRef"
      service := service.text
      serviceType := service.attribute? "type"
      action
      conversation
      properties
      parts }

def Severity.ofText (text : String) : Except DecodeError Severity :=
  if Text.sameIgnoringCase text Severity.warning.label then .ok .warning
  else if Text.sameIgnoringCase text Severity.failure.label then .ok .failure
  else .error (.malformed (.unknownSeverity text))

def EbmsError.ofElement (e : Element) : Except DecodeError EbmsError := do
  let severity ← Severity.ofText (← e.requiredAttribute "severity")
  let code ← e.requiredAttribute "errorCode"
  .ok
    { code
      severity
      category := e.attribute? "category"
      refToMessage := e.attribute? "refToMessageInError"
      shortDescription := e.attribute? "shortDescription"
      description := e.childText? "Description" }

/-- A signal: a pull request before a receipt, a receipt before errors, of which
there has to be one at least. -/
def readSignal (e : Element) : Except DecodeError MessageUnit := do
  let info ← MessageInfo.ofElement (← e.requiredChild "MessageInfo")
  match e.child? "PullRequest" with
  | some pull => .ok (.pullRequest info ((pull.attribute? "mpc").getD defaultChannel))
  | none =>
    match e.child? "Receipt" with
    | some _ => .ok (.receipt info)
    | none =>
      let errors ← (e.childrenNamed "Error").mapM EbmsError.ofElement
      if errors.isEmpty then .error (.malformed .emptySignal)
      else .ok (.errorSignal info errors)

/-- The message unit of a messaging header; a user message before a signal. -/
def MessageUnit.ofElement (e : Element) : Except DecodeError MessageUnit :=
  match e.child? "UserMessage" with
  | some message => (UserMessage.ofElement message).map .user
  | none =>
    match e.child? "SignalMessage" with
    | some signal => readSignal signal
    | none => .error (.missingElement "UserMessage or SignalMessage in Messaging")

def SecurityTimestamp.ofElement (e : Element) : Except DecodeError SecurityTimestamp := do
  let id ← e.requiredAttribute "Id"
  let created ← readInstant (← e.requiredText "Created")
  let expires ← match e.childText? "Expires" with
    | none => .ok none
    | some text => (readInstant text).map some
  .ok { id, created, expires }

def SecurityToken.ofElement (e : Element) : Except DecodeError SecurityToken := do
  let id ← e.requiredAttribute "Id"
  let value ← readBase64 "BinarySecurityToken" e.text
  .ok { id, value }

def PartDigest.ofElement (e : Element) : Except DecodeError PartDigest := do
  let algorithmUri ← (← e.requiredChild "DigestMethod").requiredAttribute "Algorithm"
  let uri ← e.requiredAttribute "URI"
  let algorithm ← match DigestAlgorithm.ofUri? algorithmUri with
    | some algorithm => .ok algorithm
    | none => .error (.unsupportedAlgorithm algorithmUri)
  let value ← readBase64 "DigestValue" (← e.requiredText "DigestValue")
  .ok { uri, algorithm, value }

/-- What the signature value signs; only one canonical form is known. -/
def SignedInfo.ofElement (e : Element) : Except DecodeError SignedInfo := do
  let canonical ← (← e.requiredChild "CanonicalizationMethod").requiredAttribute "Algorithm"
  if canonical ≠ TokenUri.exclusiveCanonical then .error (.unsupportedAlgorithm canonical)
  else
    let algorithmUri ← (← e.requiredChild "SignatureMethod").requiredAttribute "Algorithm"
    let algorithm ← match SignatureAlgorithm.ofUri? algorithmUri with
      | some algorithm => .ok algorithm
      | none => .error (.unsupportedAlgorithm algorithmUri)
    let references ← (e.childrenNamed "Reference").mapM PartDigest.ofElement
    .ok { algorithm, references }

/-- The serial number that a text spells: decimal digits below 2^64, blanks
around them aside and after at most one plus sign. -/
def readSerial (text : String) : Except DecodeError UInt64 :=
  let digits := match (Text.trim text).toList with
    | '+' :: rest => rest
    | chars => chars
  match Text.decimal? digits with
  | some value =>
    if value < UInt64.size then .ok (UInt64.ofNat value)
    else .error (.malformed (.invalidSerial text))
  | none => .error (.malformed (.invalidSerial text))

def KeyReference.ofElement (e : Element) : Except DecodeError KeyReference :=
  match e.child? "Reference" with
  | some reference => (reference.requiredAttribute "URI").map .direct
  | none =>
    match e.child? "X509Data" with
    | some data => do
      let issuerSerial ← data.requiredChild "X509IssuerSerial"
      let serialText ← issuerSerial.requiredText "X509SerialNumber"
      let issuer ← issuerSerial.requiredText "X509IssuerName"
      let serial ← readSerial serialText
      .ok (.issuerSerial issuer serial)
    | none =>
      match e.child? "KeyIdentifier" with
      | some identifier => (readBase64 "KeyIdentifier" identifier.text).map .keyIdentifier
      | none => .error (.missingElement "key reference in SecurityTokenReference")

def Signature.ofElement (e : Element) : Except DecodeError Signature := do
  let signedInfo ← SignedInfo.ofElement (← e.requiredChild "SignedInfo")
  let keyInfo ← e.requiredChild "KeyInfo"
  let key ← KeyReference.ofElement (← keyInfo.requiredChild "SecurityTokenReference")
  let value ← readBase64 "SignatureValue" (← e.requiredText "SignatureValue")
  .ok { id := (e.attribute? "Id").getD "", signedInfo, value, key }

def SecurityHeader.ofElement (e : Element) : Except DecodeError SecurityHeader := do
  let timestamp ← readOptional SecurityTimestamp.ofElement (e.child? "Timestamp")
  let token ← readOptional SecurityToken.ofElement (e.child? "BinarySecurityToken")
  let signature ← readOptional Signature.ofElement (e.child? "Signature")
  .ok { timestamp, token, signature }

def faultReason (fault : Element) : String :=
  match (fault.child? "Reason").bind (·.childText? "Text") with
  | some reason => reason
  | none => (fault.childText? "faultstring").getD "unspecified fault"

/-- The envelope, without attachments, whose root element is given. -/
def Envelope.ofElement (root : Element) : Except DecodeError Envelope := do
  if root.localName ≠ "Envelope" then
    .error (.malformed (.unexpectedRoot root.localName))
  else
    match (root.declaredNamespace? root.namespaceLabel?).bind SoapVersion.ofNamespace? with
    | none => .error (.malformed .unknownNamespace)
    | some soap =>
      let body ← root.requiredChild "Body"
      match body.child? "Fault" with
      | some fault => .error (.soapFault (faultReason fault))
      | none =>
        if !body.children.isEmpty then .error (.malformed .bodyNotEmpty)
        else
          let header ← root.requiredChild "Header"
          let messaging ← header.requiredChild "Messaging"
          let unit ← MessageUnit.ofElement messaging
          let security ← readOptional SecurityHeader.ofElement (header.child? "Security")
          let messagingId ← messaging.requiredAttribute "Id"
          let bodyId ← body.requiredAttribute "Id"
          .ok { soap, messagingId, bodyId, unit, security, attachments := [] }

def Envelope.ofDocument (document : Bytes) : Except DecodeError Envelope :=
  match Markup.readDocument document with
  | .error fault => .error (.markup fault)
  | .ok none => .error (.malformed .noRoot)
  | .ok (some root) => Envelope.ofElement root

end Ebms
