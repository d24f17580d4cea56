import Ebms.Envelope.Basic
import Ebms.Base64
import Ebms.Markup.Writer

/-! # The written form of an envelope

Each part of an envelope has one element.  The header, the body, the security
timestamp and the signed info are the parts whose bytes a signature refers to,
so their written forms stand on their own. -/

set_option autoImplicit false

namespace Ebms

namespace TokenUri

def base64Binary : String :=
  "http://docs.oasis-open.org/wss/2004/01/oasis-200401-wss-soap-message-security-1.0#Base64Binary"

def certificate : String :=
  "http://docs.oasis-open.org/wss/2004/01/oasis-200401-wss-x509-token-profile-1.0#X509v3"

def subjectKeyIdentifier : String :=
  "http://docs.oasis-open.org/wss/2004/01/oasis-200401-wss-x509-token-profile-1.0#X509SubjectKeyIdentifier"

def exclusiveCanonical : String := "http://www.w3.org/2001/10/xml-exc-c14n#"

end TokenUri

def optionalAttribute (name : String) : Option String → List (String × String)
  | none => []
  | some value => [(name, value)]

def optionalLeaf (name : String) : Option String → List Markup
  | none => []
  | some text => [.leaf name [] text]

def MessageInfo.toMarkup (info : MessageInfo) : Markup :=
  .node "eb:MessageInfo" []
    ([.leaf "eb:Timestamp" [] info.timestamp.millisecondText,
      .leaf "eb:MessageId" [] info.messageId]
      ++ optionalLeaf "eb:RefToMessageId" info.refToMessageId)

def Party.toMarkup (name : String) (party : Party) : Markup :=
  .node name []
    [.leaf "eb:PartyId" (optionalAttribute "type" party.idType) party.id,
      .leaf "eb:Role" [] party.role]

def Property.toMarkup (property : Property) : Markup :=
  .leaf "eb:Property" [("name", property.name)] property.value

/-- Properties under a heading, which is left out when there are none. -/
def propertiesMarkup (name : String) (properties : List Property) : List Markup :=
  if properties.isEmpty then []
  else [.node name [] (properties.map Property.toMarkup)]

def PartInfo.toMarkup (part : PartInfo) : Markup :=
  .node "eb:PartInfo" [("href", part.href)]
    (propertiesMarkup "eb:PartProperties" part.properties)

def UserMessage.toMarkup (m : UserMessage) : Markup :=
  .node "eb:UserMessage" (optionalAttribute "mpc" m.channel)
    ([m.info.toMarkup,
      .node "eb:PartyInfo" []
        [m.sender.toMarkup "eb:From", m.receiver.toMarkup "eb:To"],
      .node "eb:CollaborationInfo" []
        (optionalLeaf "eb:AgreementRef" m.agreement
          ++ [.leaf "eb:Service" (optionalAttribute "type" m.serviceType) m.service,
            .leaf "eb:Action" [] m.action,
            .leaf "eb:ConversationId" [] m.conversation])]
      ++ propertiesMarkup "eb:MessageProperties" m.properties
      ++ (if m.parts.isEmpty then []
        else [.node "eb:PayloadInfo" [] (m.parts.map PartInfo.toMarkup)]))

def EbmsError.toMarkup (e : EbmsError) : Markup :=
  .node "eb:Error"
    ([("errorCode", e.code), ("severity", e.severity.label)]
      ++ optionalAttribute "category" e.category
      ++ optionalAttribute "refToMessageInError" e.refToMessage
      ++ optionalAttribute "shortDescription" e.shortDescription)
    (match e.description with
      | none => []
      | some description => [.leaf "eb:Description" [("xml:lang", "en")] description])

def MessageUnit.toMarkup : MessageUnit → Markup
  | .user message => message.toMarkup
  | .pullRequest info channel =>
    .node "eb:SignalMessage" [] [info.toMarkup, .empty "eb:PullRequest" [("mpc", channel)]]
  | .receipt info => .node "eb:SignalMessage" [] [info.toMarkup, .empty "eb:Receipt" []]
  | .errorSignal info errors =>
    .node "eb:SignalMessage" [] (info.toMarkup :: errors.map EbmsError.toMarkup)

def SoapVersion.demand (soap : SoapVersion) : String × String :=
  (soap.shortName ++ ":mustUnderstand", soap.mustUnderstand)

def SecurityTimestamp.toMarkup (t : SecurityTimestamp) : Markup :=
  .node "wsu:Timestamp" [("wsu:Id", t.id)]
    (.leaf "wsu:Created" [] t.created.millisecondText
      :: optionalLeaf "wsu:Expires" (t.expires.map Instant.millisecondText))

def SecurityToken.toMarkup (token : SecurityToken) : Markup :=
  .leaf "wsse:BinarySecurityToken"
    [("EncodingType", TokenUri.base64Binary), ("ValueType", TokenUri.certificate),
      ("wsu:Id", token.id)]
    (Base64.encode token.value)

def PartDigest.toMarkup (digest : PartDigest) : Markup :=
  .node "ds:Reference" [("URI", digest.uri)]
    [.empty "ds:DigestMethod" [("Algorithm", digest.algorithm.uri)],
      .leaf "ds:DigestValue" [] (Base64.encode digest.value)]

def SignedInfo.toMarkup (info : SignedInfo) : Markup :=
  .node "ds:SignedInfo" []
    (.empty "ds:CanonicalizationMethod" [("Algorithm", TokenUri.exclusiveCanonical)]
      :: .empty "ds:SignatureMethod" [("Algorithm", info.algorithm.uri)]
      :: info.references.map PartDigest.toMarkup)

def KeyReference.toMarkup : KeyReference → Markup
  | .direct uri => .empty "wsse:Reference" [("URI", uri), ("ValueType", TokenUri.certificate)]
  | .issuerSerial issuer serial =>
    .node "ds:X509Data" []
      [.node "ds:X509IssuerSerial" []
        [.leaf "ds:X509IssuerName" [] issuer,
          .leaf "ds:X509SerialNumber" [] (Text.ofNat serial.toNat)]]
  | .keyIdentifier value =>
    .leaf "wsse:KeyIdentifier"
      [("EncodingType", TokenUri.base64Binary), ("ValueType", TokenUri.subjectKeyIdentifier)]
      (Base64.encode value)

def Signature.toMarkup (s : Signature) : Markup :=
  .node "ds:Signature" [("Id", s.id)]
    [s.signedInfo.toMarkup,
      .leaf "ds:SignatureValue" [] (Base64.encode s.value),
      .node "ds:KeyInfo" [] [.node "wsse:SecurityTokenReference" [] [s.key.toMarkup]]]

def SecurityHeader.toMarkup (soap : SoapVersion) (header : SecurityHeader) : Markup :=
  .node "wsse:Security" [soap.demand]
    ((header.timestamp.map SecurityTimestamp.toMarkup).toList
      ++ (header.token.map SecurityToken.toMarkup).toList
      ++ (header.signature.map Signature.toMarkup).toList)

namespace Envelope

def messagingMarkup (e : Envelope) : Markup :=
  .node "eb:Messaging" [e.soap.demand, ("wsu:Id", e.messagingId)] [e.unit.toMarkup]

def bodyMarkup (e : Envelope) : Markup :=
  .empty (e.soap.shortName ++ ":Body") [("wsu:Id", e.bodyId)]

def toMarkup (e : Envelope) : Markup :=
  .node (e.soap.shortName ++ ":Envelope")
    [("xmlns:" ++ e.soap.shortName, e.soap.xmlNamespace), ("xmlns:eb", Namespace.ebms),
      ("xmlns:wsse", Namespace.security), ("xmlns:wsu", Namespace.utility),
      ("xmlns:ds", Namespace.signature)]
    [.node (e.soap.shortName ++ ":Header") []
        (e.messagingMarkup :: (e.security.map (SecurityHeader.toMarkup e.soap)).toList),
      e.bodyMarkup]

/-- The bytes of the messaging header, as digested. -/
def messagingBytes (e : Envelope) : Bytes := e.messagingMarkup.render

def bodyBytes (e : Envelope) : Bytes := e.bodyMarkup.render

def document (e : Envelope) : Bytes := Markup.document e.toMarkup

end Envelope

def SecurityTimestamp.bytes (t : SecurityTimestamp) : Bytes := t.toMarkup.render

/-- The bytes of the signed info: what the signature value signs. -/
def SignedInfo.bytes (info : SignedInfo) : Bytes := info.toMarkup.render

end Ebms
