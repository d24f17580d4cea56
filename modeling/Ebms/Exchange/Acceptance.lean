import Ebms.Exchange.Observer
import Ebms.Wire

/-! # Accepting an answer

A received body is decoded, its signature verified, its status checked, and the
message in it held against the one that was expected.  The first check that
fails is the failure of the exchange. -/

set_option autoImplicit false

namespace Ebms

inductive Expectation where
  /-- A user message of a channel, or word that there is none. -/
  | pulledMessage (channel : String)
  /-- A receipt for a message, or nothing when receipts come later. -/
  | receiptFor (messageId : String)
  deriving DecidableEq, Repr, Inhabited

def Expectation.kind : Expectation → String
  | .pulledMessage _ => "UserMessage"
  | .receiptFor _ => "Receipt"

/-- How signatures of answers are dealt with: the credentials to verify them,
when, and whether there has to be one. -/
structure SignaturePolicy where
  suite : Suite
  credentials : Option Credentials
  required : Bool
  verifiedAt : Instant

def SignaturePolicy.check (policy : SignaturePolicy) (received : Option Envelope) :
    Except SecurityError (Option Verified) :=
  match received with
  | none => .ok none
  | some envelope =>
    match policy.credentials with
    | some credentials =>
      if envelope.isSigned then
        match envelope.verify policy.suite credentials policy.verifiedAt with
        | .ok verified => .ok (some verified)
        | .error error => .error error
      else if policy.required then .error .missingHeader
      else .ok none
    | none =>
      if policy.required then
        if envelope.isSigned then .error (.missingCredentials "verification")
        else .error .missingHeader
      else .ok none

def SignaturePolicy.verifies (policy : SignaturePolicy) (received : Option Envelope) : Bool :=
  policy.credentials.isSome && received.any Envelope.isSigned

/-- Whether a status is one of success.  With another status an error signal
tells what went wrong. -/
def checkStatus (status : Nat) (received : Option Envelope) : Except ProtocolError Unit :=
  if 200 ≤ status ∧ status ≤ 299 then .ok ()
  else
    match received.map Envelope.unit with
    | some (.errorSignal info errors) => .error (.ofSignal info errors)
    | _ => .error (.unexpectedStatus status)

def Expectation.admits (expected : Expectation) (unit : MessageUnit) :
    Except ProtocolError Unit :=
  match expected, unit with
  | .pulledMessage _, .errorSignal info errors =>
    if isEmptyChannel errors then .ok () else .error (.ofSignal info errors)
  | .receiptFor _, .errorSignal info errors => .error (.ofSignal info errors)
  | .pulledMessage channel, .user message =>
    if message.effectiveChannel = channel then .ok ()
    else .error (.correlation channel message.effectiveChannel)
  | .receiptFor messageId, .receipt info =>
    if info.refToMessageId = some messageId then .ok ()
    else .error (.correlation messageId (info.refToMessageId.getD "<none>"))
  | expected, unit => .error (.unexpectedResponse expected.kind unit.kind)

/-- Whether a received message is what was expected; a blank body always is. -/
def correlate (expected : Expectation) (received : Option Envelope) :
    Except ProtocolError Unit :=
  match received with
  | none => .ok ()
  | some envelope => expected.admits envelope.unit

def receivedIn (response : Response) : Except ExchangeError (Option Envelope) :=
  match decode response.contentType response.body with
  | .ok received => .ok received
  | .error error => .error (.protocol (.ofDecodeError error))

def judge (policy : SignaturePolicy) (expected : Expectation) (status : Nat)
    (received : Option Envelope) : Except ExchangeError (Option Verified) :=
  match policy.check received with
  | .error error => .error (.security error)
  | .ok verified =>
    match checkStatus status received with
    | .error error => .error (.protocol error)
    | .ok () =>
      match correlate expected received with
      | .error error => .error (.protocol error)
      | .ok () => .ok verified

end Ebms
