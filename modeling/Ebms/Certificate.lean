import Ebms.Suite.Basic
import Ebms.Time.Bounds
import Ebms.Time.Span

/-! # Certificates

A certificate binds a name to a public key for a window of time, under the
signature of its issuer.  Its encoding puts fields of fixed width, least
significant byte first, beside byte strings with their length in front; the
signature covers the encoding of every field but itself. -/

set_option autoImplicit false

namespace Ebms

/-- A certificate.  The window of validity is given in seconds since 1970. -/
structure Certificate where
  version : UInt8
  serial : UInt64
  subject : String
  issuer : String
  notBefore : Int64
  notAfter : Int64
  publicKey : Bytes
  signature : Bytes
  deriving DecidableEq, Repr, Inhabited

inductive CertificateFault where
  /-- The bytes end early, or a name is no text. -/
  | unreadable
  | unsupportedVersion (version : UInt8)
  deriving DecidableEq, Repr, Inhabited

def CertificateFault.message : CertificateFault → String
  | .unreadable => "unreadable field"
  | .unsupportedVersion version =>
    "unsupported certificate version " ++ Text.ofNat version.toNat

inductive KeyFault where
  | wrongLength (length : Nat)
  | foreignIssuerKey
  deriving DecidableEq, Repr, Inhabited

def keyLength : Nat := 32

def KeyFault.message : KeyFault → String
  | .wrongLength length =>
    "expected " ++ Text.ofNat keyLength ++ " byte key, got " ++ Text.ofNat length
  | .foreignIssuerKey => "issuer keypair does not match issuer certificate"

inductive CertificateError where
  | encoding (fault : CertificateFault)
  | invalidKey (fault : KeyFault)
  | notYetValid (subject : String) (notBefore : Int64)
  | expired (subject : String) (notAfter : Int64)
  | issuerMismatch (expected actual : String)
  | invalidSignature (subject : String)
  deriving DecidableEq, Repr, Inhabited

def CertificateError.message : CertificateError → String
  | .encoding fault => "Certificate encoding error: " ++ fault.message
  | .invalidKey fault => "Invalid public key: " ++ fault.message
  | .notYetValid subject notBefore =>
    "Certificate " ++ subject ++ " is not valid before " ++ Text.ofInt notBefore.toInt
  | .expired subject notAfter =>
    "Certificate " ++ subject ++ " expired at " ++ Text.ofInt notAfter.toInt
  | .issuerMismatch expected actual =>
    "Certificate issuer " ++ actual ++ " does not match " ++ expected
  | .invalidSignature subject => "Certificate signature is invalid for " ++ subject

structure KeyPair where
  seed : Bytes
  seed_length : seed.length = keyLength

namespace KeyPair

def ofSeed? (seed : Bytes) : Option KeyPair :=
  if h : seed.length = keyLength then some ⟨seed, h⟩ else none

def publicKey (suite : Suite) (pair : KeyPair) : Bytes := suite.publicKey pair.seed

def sign (suite : Suite) (pair : KeyPair) (message : Bytes) : Bytes :=
  suite.sign pair.seed message

/-- The key pair as shown: its public half only. -/
def text (suite : Suite) (pair : KeyPair) : String :=
  "Keypair \x7b public_key: \"" ++ Bytes.hex (pair.publicKey suite) ++ "\", .. \x7d"

end KeyPair

namespace Certificate

def currentVersion : UInt8 := 1

/-! ## Encoding -/

def encodeWord (word : UInt64) : Bytes := Bytes.ofNatLittleEndian 8 word.toNat

def encodeSized (bytes : Bytes) : Bytes := encodeWord (UInt64.ofNat bytes.length) ++ bytes

def signedBytes (c : Certificate) : Bytes :=
  c.version :: (encodeWord c.serial ++ encodeSized (Bytes.ofText c.subject)
    ++ encodeSized (Bytes.ofText c.issuer) ++ encodeWord c.notBefore.toUInt64
    ++ encodeWord c.notAfter.toUInt64 ++ encodeSized c.publicKey)

def toBytes (c : Certificate) : Bytes := c.signedBytes ++ encodeSized c.signature

def word? (bytes : Bytes) : Option (UInt64 × Bytes) :=
  if (bytes.take 8).length = 8 then
    some (UInt64.ofNat (Bytes.littleEndian (bytes.take 8)), bytes.drop 8)
  else none

def sized? (bytes : Bytes) : Option (Bytes × Bytes) := do
  let (length, rest) ← word? bytes
  let content := rest.take length.toNat
  if content.length = length.toNat then some (content, rest.drop length.toNat) else none

def sizedText? (bytes : Bytes) : Option (String × Bytes) := do
  let (content, rest) ← sized? bytes
  let text ← Bytes.text? content
  some (text, rest)

def fields? (bytes : Bytes) : Option Certificate :=
  match bytes with
  | [] => none
  | version :: rest => do
    let (serial, rest) ← word? rest
    let (subject, rest) ← sizedText? rest
    let (issuer, rest) ← sizedText? rest
    let (notBefore, rest) ← word? rest
    let (notAfter, rest) ← word? rest
    let (publicKey, rest) ← sized? rest
    let (signature, _) ← sized? rest
    some { version, serial, subject, issuer, notBefore := notBefore.toInt64,
           notAfter := notAfter.toInt64, publicKey, signature }

/-- The certificate at the start of a byte string; what follows it does not
count. -/
def ofBytes (bytes : Bytes) : Except CertificateError Certificate :=
  match fields? bytes with
  | none => .error (.encoding .unreadable)
  | some c =>
    if c.version ≠ currentVersion then .error (.encoding (.unsupportedVersion c.version))
    else if c.publicKey.length ≠ keyLength then
      .error (.invalidKey (.wrongLength c.publicKey.length))
    else .ok c

/-! ## Identity and trust -/

/-- The identifier of the key: the first twenty bytes of its SHA-256 digest. -/
def keyIdentifier (suite : Suite) (c : Certificate) : Bytes :=
  (suite.digest .sha256 c.publicKey).take 20

def isSelfSigned (c : Certificate) : Bool := c.subject == c.issuer

def hasIssuerSerial (c : Certificate) (issuer : String) (serial : UInt64) : Bool :=
  c.issuer == issuer && c.serial == serial

/-- Whether two certificates agree in issuer, serial number, subject and key. -/
def sameIdentity (c other : Certificate) : Bool :=
  c.hasIssuerSerial other.issuer other.serial && c.subject == other.subject
    && c.publicKey == other.publicKey

def checkIssuedBy (suite : Suite) (c issuer : Certificate) : Except CertificateError Unit :=
  if c.issuer ≠ issuer.subject then .error (.issuerMismatch issuer.subject c.issuer)
  else if suite.verify issuer.publicKey c.signedBytes c.signature then .ok ()
  else .error (.invalidSignature c.subject)

/-- Whether an instant lies in the window of validity; both ends count. -/
def checkValidity (c : Certificate) (instant : Instant) : Except CertificateError Unit :=
  if instant.seconds < c.notBefore.toInt then .error (.notYetValid c.subject c.notBefore)
  else if c.notAfter.toInt < instant.seconds then .error (.expired c.subject c.notAfter)
  else .ok ()

def notAfterInstant? (c : Certificate) : Option Instant := Instant.ofSeconds? c.notAfter.toInt

def text (suite : Suite) (c : Certificate) : String :=
  c.subject ++ " (issuer=" ++ c.issuer ++ ", serial=" ++ Text.ofNat c.serial.toNat
    ++ ", ski=" ++ Bytes.hex (c.keyIdentifier suite) ++ ")"

/-! ## Making certificates -/

/-- The window of validity from an instant on; the end does not pass the
largest number of seconds. -/
def validityWindow (now : Instant) (validity : Span) : Int64 × Int64 :=
  let largest := Int64.maxValue.toInt
  let length : Int := min (validity.seconds : Int) largest
  (Int64.ofInt now.seconds, Int64.ofInt (min (now.seconds + length) largest))

def signedBy (suite : Suite) (signer : KeyPair) (c : Certificate) : Certificate :=
  { c with signature := signer.sign suite c.signedBytes }

def selfSigned (suite : Suite) (now : Instant) (subject : String) (serial : UInt64)
    (pair : KeyPair) (validity : Span) : Certificate :=
  let (notBefore, notAfter) := validityWindow now validity
  signedBy suite pair
    { version := currentVersion, serial, subject, issuer := subject, notBefore, notAfter,
      publicKey := pair.publicKey suite, signature := [] }

def issue (suite : Suite) (now : Instant) (subject : String) (serial : UInt64)
    (publicKey : Bytes) (issuer : Certificate) (issuerPair : KeyPair) (validity : Span) :
    Except CertificateError Certificate :=
  if publicKey.length ≠ keyLength then .error (.invalidKey (.wrongLength publicKey.length))
  else if issuer.publicKey ≠ issuerPair.publicKey suite then
    .error (.invalidKey .foreignIssuerKey)
  else
    let (notBefore, notAfter) := validityWindow now validity
    .ok (signedBy suite issuerPair
      { version := currentVersion, serial, subject, issuer := issuer.subject, notBefore,
        notAfter, publicKey, signature := [] })

end Certificate

end Ebms
