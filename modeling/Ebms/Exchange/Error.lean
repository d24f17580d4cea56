import Ebms.Envelope.Reading
import Ebms.Mode.Registry
import Ebms.Security.Basic
import Ebms.Transport

/-! # Failures of an exchange

An exchange fails before anything is sent, while it is signed, on its way, by
what the partner answers, by a cancellation, or by an observer that refuses. -/

set_option autoImplicit false

namespace Ebms

inductive ProtocolError where
  | malformed (error : DecodeError)
  | soapFault (reason : String)
  | errorSignal (code : String) (severity : Severity) (description : String)
      (refToMessage : Option String)
  | unexpectedResponse (expected actual : String)
  | correlation (expected actual : String)
  | unexpectedStatus (status : Nat)
  deriving DecidableEq, Repr, Inhabited

namespace ProtocolError

def message : ProtocolError → String
  | .malformed error => "Malformed response: " ++ error.message
  | .soapFault reason => "Partner returned a SOAP fault: " ++ reason
  | .errorSignal code severity description _ =>
    "Partner returned ebMS error " ++ code ++ " (" ++ severity.label ++ "): " ++ description
  | .unexpectedResponse expected actual =>
    "Expected " ++ expected ++ " in response, got " ++ actual
  | .correlation expected actual =>
    "Response does not correlate: expected " ++ expected ++ ", got " ++ actual
  | .unexpectedStatus status => "Unexpected HTTP status " ++ Text.ofNat status

/-- A body that does not decode; a SOAP fault is told apart. -/
def ofDecodeError : DecodeError → ProtocolError
  | .soapFault reason => .soapFault reason
  | error => .malformed error

/-- What an error signal reports: its first error, described as fully as it can
be, about the message that the error or else the signal refers to. -/
def ofSignal (info : MessageInfo) (errors : List EbmsError) : ProtocolError :=
  match errors with
  | error :: _ =>
    .errorSignal error.code error.severity
      ((error.description.or error.shortDescription).getD "")
      (error.refToMessage.or info.refToMessageId)
  | [] => .errorSignal "unknown" .failure "error signal without errors" info.refToMessageId

end ProtocolError

inductive ValidationError where
  | missingFields (names : List String)
  | lookup (error : LookupError)
  | invalidField (field reason : String)
  deriving DecidableEq, Repr, Inhabited

def ValidationError.message : ValidationError → String
  | .missingFields names => "Missing required fields: " ++ ", ".intercalate names
  | .lookup error => error.message
  | .invalidField field reason => "Invalid value for " ++ field ++ ": " ++ reason

inductive ExchangeError where
  | validation (error : ValidationError)
  | security (error : SecurityError)
  | transport (attempts : Nat) (cause : TransportError)
  | protocol (error : ProtocolError)
  | cancelled (attempts : Nat)
  | wrapped (reason : String)
  deriving DecidableEq, Repr, Inhabited

namespace ExchangeError

def message : ExchangeError → String
  | .validation error => "Validation failed: " ++ error.message
  | .security error => "Security failure: " ++ error.message
  | .transport attempts cause =>
    "Transport failed after " ++ Text.ofNat attempts ++ " attempt(s): " ++ cause.message
  | .protocol error => "Protocol error: " ++ error.message
  | .cancelled attempts =>
    "Exchange cancelled after " ++ Text.ofNat attempts ++ " attempt(s)"
  | .wrapped reason => "Unexpected failure: " ++ reason

def kind : ExchangeError → String
  | .validation _ => "validation"
  | .security _ => "security"
  | .transport .. => "transport"
  | .protocol _ => "protocol"
  | .cancelled _ => "cancelled"
  | .wrapped _ => "wrapped"

def attempts? : ExchangeError → Option Nat
  | .transport attempts _ | .cancelled attempts => some attempts
  | _ => none

def isValidation : ExchangeError → Bool
  | .validation _ => true
  | _ => false

end ExchangeError

end Ebms
