import Ebms.Keyring.InMemory
import Ebms.Security.Signing
import Ebms.Transport
import Ebms.Wire

/-! # Rehearsals

Exchanges can be rehearsed without a partner: here are two parties that trust
each other, and the answers that the partner gives. -/

set_option autoImplicit false

namespace Ebms.Rehearsal

def partnerEndpoint : String := "https://partner.example/as4"

def keyPassword : String := "key-password"

def certificateValidity : Span := Span.ofSeconds 31536000

def certificateOf (suite : Suite) (now : Instant) (keyAlias : String) (serial : UInt64)
    (pair : KeyPair) : Certificate :=
  Certificate.selfSigned suite now ("CN=" ++ keyAlias) serial pair certificateValidity

def credentialsOf (keyAlias : String) (pair : KeyPair) (own trusted : Certificate)
    (reference : KeyReferenceKind) : Credentials :=
  let ring : InMemoryKeyring :=
    { keys := [{ keyAlias, pair, certificate := own, password := keyPassword }]
      trusted := [trusted] }
  { Credentials.ofKeyring ring.toKeyring keyAlias keyPassword with keyReference := reference }

/-- Two parties that trust each other. -/
structure Parties where
  sender : Credentials
  partner : Credentials
  senderCertificate : Certificate
  partnerCertificate : Certificate

def parties (suite : Suite) (now : Instant) (senderPair partnerPair : KeyPair)
    (reference : KeyReferenceKind) : Parties :=
  let senderCertificate := certificateOf suite now "sender" 1 senderPair
  let partnerCertificate := certificateOf suite now "partner" 2 partnerPair
  { sender := credentialsOf "sender" senderPair senderCertificate partnerCertificate reference
    partner := credentialsOf "partner" partnerPair partnerCertificate senderCertificate reference
    senderCertificate, partnerCertificate }

def pulledMessage (seed : String) (now : Instant) (messageId channel : String) : Envelope :=
  let payload : Attachment :=
    { contentId := "payload-" ++ messageId
      mediaType := "application/xml"
      data := Bytes.ofText ("<Invoice id=\"" ++ messageId ++ "\"/>") }
  let party (id role : String) : Party :=
    { id, idType := none, role := "http://example.org/roles/" ++ role }
  Envelope.ofUnit seed .v12
    (.user
      { info := { timestamp := now, messageId, refToMessageId := none }
        channel := some channel
        sender := party "partner-gw" "sender"
        receiver := party "sender-gw" "receiver"
        agreement := none
        service := "urn:services:invoicing"
        serviceType := none
        action := "Deliver"
        conversation := "conv-1"
        properties := [{ name := "originalSender", value := "urn:party:partner" }]
        parts := [{ href := payload.href
                    properties := [{ name := "MimeType", value := "application/xml" }] }] })
    [payload]

def receiptFor (seed : String) (now : Instant) (messageId : String) : Envelope :=
  Envelope.ofUnit seed .v12
    (.receipt { timestamp := now, messageId := "receipt-" ++ messageId,
                refToMessageId := some messageId }) []

def errorSignal (seed : String) (now : Instant) (code : String) (severity : Severity)
    (refToMessageId : Option String) : Envelope :=
  Envelope.ofUnit seed .v12
    (.errorSignal { timestamp := now, messageId := "error-signal@partner", refToMessageId }
      [{ code, severity, category := none, refToMessage := refToMessageId,
         shortDescription := none, description := some (code ++ " raised by partner") }]) []

def emptyChannelSignal (seed : String) (now : Instant) : Envelope :=
  errorSignal seed now emptyChannelCode .warning none

def response (boundary : String) (status : Nat) (envelope : Envelope) : Response :=
  let wire := envelope.encode boundary
  { status, contentType := some wire.contentType, body := wire.body }

end Ebms.Rehearsal
