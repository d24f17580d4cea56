import Ebms.Keyring.Basic
import Ebms.Text.Quoted

/-! # Credentials and security errors

Credentials are what one party signs with and trusts: a keyring, the alias and
password of its own key, the trusted certificates, and the algorithms it uses
and demands. -/

set_option autoImplicit false

namespace Ebms

/-- What a party signs and verifies messages with. -/
structure Credentials where
  keyring : Keyring
  trusted : List Certificate
  keyAlias : String
  password : String
  signature : SignatureAlgorithm
  digest : DigestAlgorithm
  keyReference : KeyReferenceKind

namespace Credentials

def ofKeyring (keyring : Keyring) (keyAlias password : String) : Credentials :=
  { keyring, trusted := keyring.trusted, keyAlias, password, signature := .ed25519,
    digest := .sha256, keyReference := .directReference }

def signingEntry (c : Credentials) : Except KeyringError KeyEntry :=
  c.keyring.entry c.keyAlias c.password

/-- The credentials as shown: nothing secret. -/
def text (c : Credentials) : String :=
  let digest := match c.digest with
    | .sha256 => "Sha256"
    | .sha512 => "Sha512"
  let reference := match c.keyReference with
    | .directReference => "DirectReference"
    | .issuerSerial => "IssuerSerial"
    | .keyIdentifier => "KeyIdentifier"
  "CryptoConfig \x7b key_alias: " ++ Text.quoted c.keyAlias
    ++ ", signature_algorithm: Ed25519, digest_algorithm: " ++ digest
    ++ ", key_reference_type: " ++ reference ++ ", .. \x7d"

end Credentials

inductive SecurityError where
  | missingHeader
  | missingSignature
  | alreadySigned
  | missingCredentials (purpose : String)
  | keyring (error : KeyringError)
  | certificate (error : CertificateError)
  | unresolvedCertificate (reference : String)
  | untrustedCertificate (certificate : String)
  | algorithmMismatch (expected actual : String)
  | digestMismatch (uri : String)
  | unknownReference (uri : String)
  | unsignedPart (uri : String)
  | timestampExpired (expires : Instant)
  | invalidSignature
  deriving DecidableEq, Repr, Inhabited

def SecurityError.message : SecurityError → String
  | .missingHeader => "Message has no WS-Security header"
  | .missingSignature => "WS-Security header carries no signature"
  | .alreadySigned => "Envelope is already signed"
  | .missingCredentials purpose => "No crypto configuration available for " ++ purpose
  | .keyring error => "Keystore error: " ++ error.message
  | .certificate error => "Certificate error: " ++ error.message
  | .unresolvedCertificate reference =>
    "Signer certificate could not be resolved: " ++ reference
  | .untrustedCertificate shown => "Signer certificate is not trusted: " ++ shown
  | .algorithmMismatch expected actual =>
    "Algorithm mismatch: expected " ++ expected ++ ", got " ++ actual
  | .digestMismatch uri => "Digest mismatch for reference " ++ uri
  | .unknownReference uri =>
    "Signature reference " ++ uri ++ " does not resolve to a message part"
  | .unsignedPart uri => "Message part " ++ uri ++ " is not covered by the signature"
  | .timestampExpired expires => "Security timestamp expired at " ++ expires.fullText
  | .invalidSignature => "Signature value is invalid"

end Ebms
