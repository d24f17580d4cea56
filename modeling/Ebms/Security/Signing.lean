import Ebms.Security.Basic
import Ebms.Envelope.Markup

/-! # Signing

Signing adds a timestamp and a signature whose references cover the messaging
header, the body, the timestamp and every attachment.  The credentials say how
the signature names the signer's certificate. -/

set_option autoImplicit false

namespace Ebms

/-- The longest time to live that a timestamp can state, in nanoseconds: 2^63 - 1
milliseconds. -/
def longestTimeToLive : Span := Span.ofMilliseconds (Nat.pow 2 63 - 1)

/-- When a timestamp made now expires; never, when that lies out of range. -/
def expiryOf (now : Instant) (timeToLive : Span) : Option Instant :=
  if timeToLive.nanos ≤ longestTimeToLive.nanos then
    now.later? timeToLive.seconds timeToLive.subsecond
  else none

namespace Envelope

def newTimestamp (e : Envelope) (now : Instant) (timeToLive : Span) : SecurityTimestamp :=
  { id := "TS-" ++ e.idSuffix, created := now, expires := expiryOf now timeToLive }

/-- The parts that a signature covers, each under its reference. -/
def signedParts (e : Envelope) (timestamp : SecurityTimestamp) : List (String × Bytes) :=
  [("#" ++ e.messagingId, e.messagingBytes), ("#" ++ e.bodyId, e.bodyBytes),
    ("#" ++ timestamp.id, timestamp.bytes)]
    ++ e.attachments.map fun a => (a.href, a.data)

end Envelope

def signedInfoOf (suite : Suite) (signature : SignatureAlgorithm) (digest : DigestAlgorithm)
    (parts : List (String × Bytes)) : SignedInfo :=
  { algorithm := signature
    references := parts.map fun (uri, data) =>
      { uri, algorithm := digest, value := suite.digest digest data } }

def keyReferenceTo (suite : Suite) (kind : KeyReferenceKind) (tokenId : String)
    (certificate : Certificate) : KeyReference :=
  match kind with
  | .directReference => .direct ("#" ++ tokenId)
  | .issuerSerial => .issuerSerial certificate.issuer certificate.serial
  | .keyIdentifier => .keyIdentifier (certificate.keyIdentifier suite)

def tokenFor (kind : KeyReferenceKind) (tokenId : String) (certificate : Certificate) :
    Option SecurityToken :=
  match kind with
  | .directReference => some { id := tokenId, value := certificate.toBytes }
  | _ => none

namespace Envelope

def tokenId (e : Envelope) : String := "X509-" ++ e.idSuffix

def signatureWith (suite : Suite) (credentials : Credentials) (entry : KeyEntry)
    (timestamp : SecurityTimestamp) (e : Envelope) : Signature :=
  let info := signedInfoOf suite credentials.signature credentials.digest
    (e.signedParts timestamp)
  { id := "SIG-" ++ e.idSuffix
    signedInfo := info
    value := entry.pair.sign suite info.bytes
    key := keyReferenceTo suite credentials.keyReference e.tokenId entry.certificate }

def securityWith (suite : Suite) (credentials : Credentials) (entry : KeyEntry)
    (timestamp : SecurityTimestamp) (e : Envelope) : SecurityHeader :=
  { timestamp := some timestamp
    token := tokenFor credentials.keyReference e.tokenId entry.certificate
    signature := some (e.signatureWith suite credentials entry timestamp) }

def sign (suite : Suite) (credentials : Credentials) (timeToLive : Span)
    (now : Instant) (e : Envelope) : Except SecurityError Envelope :=
  if e.isSigned then .error .alreadySigned
  else
    match credentials.signingEntry with
    | .error error => .error (.keyring error)
    | .ok entry =>
      let timestamp := e.newTimestamp now timeToLive
      .ok { e with security := some (e.securityWith suite credentials entry timestamp) }

end Envelope

end Ebms
