import Ebms.Security.Signing

/-! # Verification

A signed message is accepted when its signer's certificate can be found, is
trusted and valid, every reference resolves to a part with the stated digest,
every part is referenced, the signature value is that of the signed info, and
the timestamp has not expired.  The first check that fails is the error. -/

set_option autoImplicit false

namespace Ebms

/-- What verification found out about a message. -/
structure Verified where
  certificate : Certificate
  reference : KeyReferenceKind
  hasTimestamp : Bool
  deriving DecidableEq, Repr, Inhabited

/-- The certificate that a signature names: the token's, or the first trusted
one that fits. -/
def resolveCertificate (suite : Suite) (trusted : List Certificate)
    (token : Option SecurityToken) (key : KeyReference) : Except SecurityError Certificate :=
  match key with
  | .direct uri =>
    let id := (Text.after? "#" uri).getD uri
    match token.filter (·.id == id) with
    | none => .error (.unresolvedCertificate uri)
    | some token =>
      match Certificate.ofBytes token.value with
      | .ok certificate => .ok certificate
      | .error error => .error (.certificate error)
  | .issuerSerial issuer serial =>
    match trusted.find? (·.hasIssuerSerial issuer serial) with
    | some certificate => .ok certificate
    | none =>
      .error (.unresolvedCertificate
        ("issuer=" ++ issuer ++ ", serial=" ++ Text.ofNat serial.toNat))
  | .keyIdentifier value =>
    match trusted.find? (·.keyIdentifier suite == value) with
    | some certificate => .ok certificate
    | none => .error (.unresolvedCertificate ("ski=" ++ Bytes.hex value))

/-- Whether one trusted certificate vouches for a certificate: it is the same
one, or it issued it. -/
def vouchesFor (suite : Suite) (certificate anchor : Certificate) : Bool :=
  anchor.sameIdentity certificate
    || (anchor.subject == certificate.issuer
      && (certificate.checkIssuedBy suite anchor).toOption.isSome)

def isTrusted (suite : Suite) (trusted : List Certificate) (certificate : Certificate) : Bool :=
  trusted.any (vouchesFor suite certificate)

/-- The part that a reference resolves to.  The messaging header comes first,
then the body, the timestamp, and the first attachment of the content id. -/
def Envelope.part? (e : Envelope) (header : SecurityHeader) (uri : String) : Option Bytes :=
  if uri = "#" ++ e.messagingId then some e.messagingBytes
  else if uri = "#" ++ e.bodyId then some e.bodyBytes
  else
    match header.timestamp.filter fun t => uri == "#" ++ t.id with
    | some timestamp => some timestamp.bytes
    | none => ((Text.after? "cid:" uri).bind e.attachment?).map (·.data)

def checkReference (suite : Suite) (demanded : DigestAlgorithm) (e : Envelope)
    (header : SecurityHeader) (reference : PartDigest) : Except SecurityError Unit :=
  if reference.algorithm ≠ demanded then
    .error (.algorithmMismatch demanded.uri reference.algorithm.uri)
  else
    match e.part? header reference.uri with
    | none => .error (.unknownReference reference.uri)
    | some data =>
      if suite.digest reference.algorithm data = reference.value then .ok ()
      else .error (.digestMismatch reference.uri)

def Envelope.requiredReferences (e : Envelope) (header : SecurityHeader) : List String :=
  ["#" ++ e.messagingId, "#" ++ e.bodyId]
    ++ (header.timestamp.map fun t => "#" ++ t.id).toList
    ++ e.attachments.map Attachment.href

/-- Whether every reference holds and every part is referenced. -/
def checkReferences (suite : Suite) (demanded : DigestAlgorithm) (e : Envelope)
    (header : SecurityHeader) (info : SignedInfo) : Except SecurityError Unit := do
  info.references.forM (checkReference suite demanded e header)
  match (e.requiredReferences header).find? fun uri =>
      !info.references.any (·.uri == uri) with
  | some uri => .error (.unsignedPart uri)
  | none => .ok ()

def checkExpiry (now : Instant) (timestamp : Option SecurityTimestamp) :
    Except SecurityError Unit :=
  match timestamp.bind (·.expires) with
  | some expires => if expires.before now then .error (.timestampExpired expires) else .ok ()
  | none => .ok ()

def checkWindow (certificate : Certificate) (now : Instant) : Except SecurityError Unit :=
  match certificate.checkValidity now with
  | .ok () => .ok ()
  | .error error => .error (.certificate error)

def Envelope.verify (suite : Suite) (credentials : Credentials) (now : Instant)
    (e : Envelope) : Except SecurityError Verified :=
  match e.security with
  | none => .error .missingHeader
  | some header =>
    match header.signature with
    | none => .error .missingSignature
    | some signature => do
      let info := signature.signedInfo
      if info.algorithm ≠ credentials.signature then
        .error (.algorithmMismatch credentials.signature.uri info.algorithm.uri)
      else
        let certificate ←
          resolveCertificate suite credentials.trusted header.token signature.key
        if !isTrusted suite credentials.trusted certificate then
          .error (.untrustedCertificate (certificate.text suite))
        else
          checkWindow certificate now
          checkReferences suite credentials.digest e header info
          if !suite.verify certificate.publicKey info.bytes signature.value then
            .error .invalidSignature
          else
            checkExpiry now header.timestamp
            .ok
              { certificate
                reference := signature.key.kind
                hasTimestamp := header.timestamp.isSome }

end Ebms
