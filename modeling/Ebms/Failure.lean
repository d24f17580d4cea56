import Ebms.Exchange.Error
import Ebms.Resources

/-! # Failures

Every error has a message for people and a name for programs.  The name of an
error that comes from a layer below leads from the outer kind to the inner one.
Where a message ends in words about input that is not what it should be, those
words are its detail. -/

set_option autoImplicit false

namespace Ebms

/-- What errors have in common. -/
class Failure (ε : Type) where
  /-- The kind of error; kinds within kinds are separated by points. -/
  name : ε → String
  message : ε → String
  /-- The end of the message that only describes the input. -/
  detail? : ε → Option String

namespace Failure

def within {ε : Type} [Failure ε] (kind : String) (error : ε) : String :=
  kind ++ "." ++ name error

end Failure

instance : Failure DecodeError where
  name
    | .markup _ => "Xml"
    | .malformed _ => "Malformed"
    | .missingElement _ => "MissingElement"
    | .unsupportedAlgorithm _ => "UnsupportedAlgorithm"
    | .multipart _ => "Mime"
    | .soapFault _ => "SoapFault"
  message := DecodeError.message
  detail?
    | .markup .multipleRoots | .markup .unexpectedEnd => none
    | .markup fault => some fault.message
    | .malformed cause => cause.detail?
    | _ => none

instance : Failure KeyringError where
  name
    | .missingEntry _ | .missingFile _ => "NotFound"
    | .files _ => "Io"
    | .sealedData _ => "Decryption"
    | .malformedDocument => "Serialization"
    | .foreignCertificate _ | .wrongSeedLength _ => "InvalidKey"
    | .wrongPassword => "InvalidPassword"
  message := KeyringError.message
  detail?
    | .files detail => some detail
    | .malformedDocument => some KeyringError.notADocument
    | _ => none

instance : Failure CertificateError where
  name
    | .encoding _ => "Encoding"
    | .invalidKey _ => "InvalidKey"
    | .notYetValid .. => "NotYetValid"
    | .expired .. => "Expired"
    | .issuerMismatch .. => "IssuerMismatch"
    | .invalidSignature _ => "InvalidSignature"
  message := CertificateError.message
  detail?
    | .encoding .unreadable => some CertificateFault.unreadable.message
    | _ => none

instance : Failure SecurityError where
  name
    | .missingHeader => "MissingSecurityHeader"
    | .missingSignature => "MissingSignature"
    | .alreadySigned => "AlreadySigned"
    | .missingCredentials _ => "MissingCryptoConfig"
    | .keyring error => Failure.within "Keystore" error
    | .certificate error => Failure.within "Certificate" error
    | .unresolvedCertificate _ => "UnresolvedCertificate"
    | .untrustedCertificate _ => "UntrustedCertificate"
    | .algorithmMismatch .. => "AlgorithmMismatch"
    | .digestMismatch _ => "DigestMismatch"
    | .unknownReference _ => "UnknownReference"
    | .unsignedPart _ => "UnsignedPart"
    | .timestampExpired _ => "TimestampExpired"
    | .invalidSignature => "InvalidSignature"
  message := SecurityError.message
  detail?
    | .keyring error => Failure.detail? error
    | .certificate error => Failure.detail? error
    | _ => none

instance : Failure TransportError where
  name
    | .unreachable .. => "Connect"
    | .timeout _ => "Timeout"
    | .serverError _ => "ServerError"
    | .unauthorized _ => "Unauthorized"
    | .rejected _ => "Rejected"
    | .invalidEndpoint _ => "InvalidEndpoint"
    | .broken _ => "Io"
  message := TransportError.message
  detail? _ := none

instance : Failure ResourceError where
  name _ := "NotFound"
  message := ResourceError.message
  detail? _ := none

instance : Failure LookupError where
  name
    | .unknownMode _ => "PModeNotFound"
    | .unknownChannel _ => "MpcNotFound"
    | .unavailable _ => "Backend"
  message := LookupError.message
  detail? _ := none

instance : Failure ValidationError where
  name
    | .missingFields _ => "MissingFields"
    | .lookup error => Failure.within "Lookup" error
    | .invalidField .. => "InvalidField"
  message := ValidationError.message
  detail? _ := none

instance : Failure ProtocolError where
  name
    | .malformed error => Failure.within "Malformed" error
    | .soapFault _ => "SoapFault"
    | .errorSignal .. => "ErrorSignal"
    | .unexpectedResponse .. => "UnexpectedResponse"
    | .correlation .. => "Correlation"
    | .unexpectedStatus _ => "UnexpectedStatus"
  message := ProtocolError.message
  detail?
    | .malformed error => Failure.detail? error
    | _ => none

instance : Failure ExchangeError where
  name
    | .validation error => Failure.within "Validation" error
    | .security error => Failure.within "Security" error
    | .transport _ cause => Failure.within "Transport" cause
    | .protocol error => Failure.within "Protocol" error
    | .cancelled _ => "Cancelled"
    | .wrapped _ => "Wrapped"
  message := ExchangeError.message
  detail?
    | .security error => Failure.detail? error
    | .protocol error => Failure.detail? error
    | _ => none

end Ebms
