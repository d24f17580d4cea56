import Ebms.Envelope.Basic
import Ebms.Json.Forms
import Ebms.Time.Span

/-! # Envelopes in JSON

Envelopes stand in JSON for tools that make or inspect messages without their
markup.  An instant is a pair of seconds and nanoseconds. -/

set_option autoImplicit false

namespace Ebms

/-! ## Reading -/

def Instant.ofJson (value : Json) : Instant :=
  match value.items with
  | [seconds, nanos] => (Instant.ofParts? seconds.toInt nanos.toNat).getD default
  | _ => default

def Span.ofJson (value : Json) : Span :=
  match value.items with
  | [seconds, nanos] => Span.ofParts seconds.toNat nanos.toNat
  | _ => default

def Property.ofJson (value : Json) : Property :=
  match value.items with
  | [name, value] => { name := name.toText, value := value.toText }
  | _ => default

def propertiesOfJson (value : Json) : List Property := value.items.map Property.ofJson

def Party.ofJson (idTypeName : String) (value : Json) : Party :=
  { id := (value.field "id").toText
    idType := (value.field idTypeName).option Json.toText
    role := (value.field "role").toText }

def MessageInfo.ofJson (value : Json) : MessageInfo :=
  { timestamp := .ofJson (value.field "timestamp")
    messageId := (value.field "id").toText
    refToMessageId := (value.field "ref").option Json.toText }

/-- The severity of a label; whatever is no warning is a failure. -/
def Severity.ofLabel (label : String) : Severity :=
  if label = Severity.warning.label then .warning else .failure

def EbmsError.ofJson (value : Json) : EbmsError :=
  { code := (value.field "code").toText
    severity := .ofLabel (value.field "severity").toText
    category := (value.field "category").option Json.toText
    refToMessage := (value.field "ref").option Json.toText
    shortDescription := (value.field "short").option Json.toText
    description := (value.field "description").option Json.toText }

def PartInfo.ofJson (value : Json) : PartInfo :=
  { href := (value.field "href").toText, properties := propertiesOfJson (value.field "properties") }

def UserMessage.ofJson (value : Json) : UserMessage :=
  { info := .ofJson (value.field "info")
    channel := (value.field "mpc").option Json.toText
    sender := .ofJson "type" (value.field "from")
    receiver := .ofJson "type" (value.field "to")
    agreement := (value.field "agreement").option Json.toText
    service := (value.field "service").toText
    serviceType := (value.field "service_type").option Json.toText
    action := (value.field "action").toText
    conversation := (value.field "conversation").toText
    properties := propertiesOfJson (value.field "properties")
    parts := (value.field "parts").items.map PartInfo.ofJson }

def MessageUnit.ofJson (value : Json) : MessageUnit :=
  match (value.field "kind").toText with
  | "PullRequest" => .pullRequest (.ofJson (value.field "info")) (value.field "mpc").toText
  | "Receipt" => .receipt (.ofJson (value.field "info"))
  | "Error" =>
    .errorSignal (.ofJson (value.field "info")) ((value.field "errors").items.map EbmsError.ofJson)
  | _ => .user (.ofJson value)

def attachmentsOfJson (value : Json) : List Attachment :=
  value.items.map fun a =>
    { contentId := (a.field "id").toText, mediaType := (a.field "mime").toText,
      data := (a.field "data").toBytes }

def DigestAlgorithm.ofJson (value : Json) : DigestAlgorithm :=
  (DigestAlgorithm.ofName? value.toText).getD .sha256

def KeyReference.ofJson (value : Json) : KeyReference :=
  match (value.field "type").toText with
  | "issuer-serial" =>
    .issuerSerial (value.field "issuer").toText (UInt64.ofNat (value.field "serial").toNat)
  | "key-identifier" => .keyIdentifier (value.field "value").hexBytes
  | _ => .direct (value.field "uri").toText

def Signature.ofJson (value : Json) : Signature :=
  { id := (value.field "id").toText
    signedInfo :=
      { algorithm := .ed25519
        references := (value.field "references").items.map fun r =>
          { uri := (r.field "uri").toText, algorithm := .ofJson (r.field "digest"),
            value := (r.field "value").hexBytes } }
    value := (value.field "value").hexBytes
    key := .ofJson (value.field "key_info") }

def SecurityHeader.ofJson (value : Json) : SecurityHeader :=
  { timestamp := (value.field "timestamp").option fun t =>
      { id := (t.field "id").toText, created := .ofJson (t.field "created"),
        expires := (t.field "expires").option Instant.ofJson }
    token := (value.field "token").option fun t =>
      { id := (t.field "id").toText, value := (t.field "value").hexBytes }
    signature := (value.field "signature").option Signature.ofJson }

def SoapVersion.ofJson (value : Json) : SoapVersion :=
  if value.toText = SoapVersion.v11.label then .v11 else .v12

def Envelope.ofJson (value : Json) : Envelope :=
  { soap := .ofJson (value.field "soap")
    messagingId := (value.field "messaging_id").toText
    bodyId := (value.field "body_id").toText
    unit := .ofJson (value.field "message")
    security := (value.field "security").option SecurityHeader.ofJson
    attachments := attachmentsOfJson (value.field "attachments") }

/-! ## Writing -/

def Instant.toJson (t : Instant) : Json := .array [.ofInt t.seconds, .ofNat t.nanos]

/-- A length of time as a pair; its seconds may be too many for a number. -/
def Span.toJson (s : Span) : Json :=
  .array [.string (Text.ofNat s.seconds), .ofNat s.subsecond]

def optionalText (value : Option String) : Json := Json.ofOption .string value

def propertiesToJson (properties : List Property) : Json :=
  Json.ofList (fun p => .array [.string p.name, .string p.value]) properties

def Party.toJson (p : Party) : Json :=
  .object [("id", .string p.id), ("type", optionalText p.idType), ("role", .string p.role)]

def EbmsError.toJson (e : EbmsError) : Json :=
  .object [("code", .string e.code), ("severity", .string e.severity.label),
    ("category", optionalText e.category), ("ref", optionalText e.refToMessage),
    ("short", optionalText e.shortDescription), ("description", optionalText e.description)]

def MessageUnit.particulars : MessageUnit → List (String × Json)
  | .user m =>
    [("mpc", optionalText m.channel), ("from", m.sender.toJson), ("to", m.receiver.toJson),
      ("agreement", optionalText m.agreement), ("service", .string m.service),
      ("service_type", optionalText m.serviceType), ("action", .string m.action),
      ("conversation", .string m.conversation), ("properties", propertiesToJson m.properties),
      ("parts", Json.ofList (fun p : PartInfo =>
        .object [("href", .string p.href), ("properties", propertiesToJson p.properties)]) m.parts)]
  | .pullRequest _ channel => [("mpc", .string channel)]
  | .receipt _ => []
  | .errorSignal _ errors => [("errors", Json.ofList EbmsError.toJson errors)]

def MessageUnit.toJson (time : Instant → Json) (unit : MessageUnit) : Json :=
  .object ([("kind", .string unit.kind),
    ("info", .object [("timestamp", time unit.info.timestamp),
      ("id", .string unit.info.messageId), ("ref", optionalText unit.info.refToMessageId)])]
    ++ unit.particulars)

def attachmentsToJson (shown : Bytes → Json) (attachments : List Attachment) : Json :=
  Json.ofList (fun a : Attachment => .object [("id", .string a.contentId),
    ("mime", .string a.mediaType), ("data", shown a.data)]) attachments

def KeyReference.toJson (shown : Bytes → Json) (k : KeyReference) : Json :=
  .object (("type", .string k.kind.name) ::
    match k with
    | .direct uri => [("uri", .string uri)]
    | .issuerSerial issuer serial =>
      [("issuer", .string issuer), ("serial", .string (Text.ofNat serial.toNat))]
    | .keyIdentifier value => [("value", shown value)])

def PartDigest.toJson (r : PartDigest) : Json :=
  .object [("uri", .string r.uri), ("digest", .string r.algorithm.name),
    ("value", .ofHex r.value)]

def SecurityHeader.toJson (h : SecurityHeader) : Json :=
  .object
    [("timestamp", Json.ofOption (fun t : SecurityTimestamp =>
        .object [("id", .string t.id), ("created", t.created.toJson),
          ("expires", Json.ofOption Instant.toJson t.expires)]) h.timestamp),
      ("token", Json.ofOption (fun t : SecurityToken =>
        .object [("id", .string t.id), ("value", .ofHex t.value)]) h.token),
      ("signature", Json.ofOption (fun s : Signature =>
        .object [("id", .string s.id), ("method", .string s.signedInfo.algorithm.uri),
          ("references", Json.ofList PartDigest.toJson s.signedInfo.references),
          ("value", .ofHex s.value), ("key_info", s.key.toJson .ofHex)]) h.signature)]

/-- How the parts of an envelope that differ from occasion to occasion are
shown. -/
structure EnvelopeView where
  time : Instant → Json
  security : SecurityHeader → Json
  data : Bytes → Json

def Envelope.toJson (view : EnvelopeView) (e : Envelope) : Json :=
  .object [("soap", .string e.soap.label), ("messaging_id", .string e.messagingId),
    ("body_id", .string e.bodyId), ("message", e.unit.toJson view.time),
    ("security", Json.ofOption view.security e.security),
    ("attachments", attachmentsToJson view.data e.attachments)]

end Ebms
