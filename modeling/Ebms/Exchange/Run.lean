import Ebms.Exchange.Acceptance
import Ebms.Exchange.Journal
import Ebms.Retry
import Ebms.Security.Signing

/-! # Running an exchange

A message is signed once and encoded once, and the same bytes are transmitted
until an answer is received, the failure is one that does not pass, the retries
are used up, or the exchange is cancelled between two attempts.  Observers of
the outcome are told only of an exchange that was accepted.

The exchange here carries its bodies along and retains them on a disk that works. -/

set_option autoImplicit false

namespace Ebms

structure ExchangeRequest where
  envelope : Envelope
  endpoint : String
  expected : Expectation
  credentials : Option Credentials
  sign : Bool
  requireSignedResponse : Bool
  retry : RetryPolicy
  observers : Observers

/-- What an exchange meets with. -/
structure Circumstances where
  suite : Suite
  clock : Clock
  /-- How long the timestamp of a signed message is valid. -/
  timeToLive : Span
  attemptLimit : Span
  signedAt : Instant
  verifiedAt : Instant
  boundary : String
  /-- What becomes of each transmission, counted from one. -/
  outcome : Nat → Outcome
  /-- Whether the exchange has been cancelled by the end of the wait after an
  attempt. -/
  cancelled : Nat → Bool

namespace Exchange

def orFail {α : Type} : Except ExchangeError α → Exchange α
  | .ok value => pure value
  | .error error => throw error

/-- The message as it is sent, signed when that is asked for. -/
def signed (c : Circumstances) (r : ExchangeRequest) : Exchange Envelope :=
  if r.sign then
    match r.credentials with
    | none => throw (.security (.missingCredentials "signing"))
    | some credentials =>
      match r.envelope.sign c.suite credentials c.timeToLive c.signedAt with
      | .error error => throw (.security error)
      | .ok envelope => do
        count (.of .signaturesCreated)
        observe r.observers (.signed envelope)
        pure envelope
  else pure r.envelope

def prepare (c : Circumstances) (r : ExchangeRequest) : Exchange WireMessage := do
  enter .building
  observe r.observers (.built r.envelope)
  enter .signing
  let envelope ← signed c r
  let wire := envelope.encode c.boundary
  let _ ← retain .working wire.body
  pure wire

def attemptOnce (c : Circumstances) (t : Transmission) (attempt : Nat) :
    Exchange (Except TransportError Response) := do
  enter .transmitting
  count (.of .transmitAttempts)
  send t
  ((c.outcome attempt).waits c.attemptLimit).forM (wait c.clock)
  pure ((c.outcome attempt).received c.attemptLimit)

def noteSpooled : Exchange Unit :=
  modify fun j =>
    { j with spooledAtRetries := j.spooledAtRetries ++ [j.held.tracker.outstandingSpooled] }

/-- What happens between a failed attempt and the next one. -/
def pause (c : Circumstances) (r : ExchangeRequest) (attempt : Nat) (cause : TransportError) :
    Exchange Unit := do
  count (.of .retries)
  announce r.observers (.retry attempt cause)
  noteSpooled
  wait c.clock (r.retry.delay attempt)
  if c.cancelled attempt then throw (.cancelled attempt) else pure ()

/-- Transmits from a given attempt on, with `left` more attempts allowed after
it. -/
def transmitFrom (c : Circumstances) (r : ExchangeRequest) (t : Transmission) (attempt : Nat) :
    Nat → Exchange (Nat × Response)
  | 0 => do
    match ← attemptOnce c t attempt with
    | .ok response => pure (attempt, response)
    | .error cause => throw (.transport attempt cause)
  | left + 1 => do
    match ← attemptOnce c t attempt with
    | .ok response => pure (attempt, response)
    | .error cause =>
      if cause.isRetriable then do
        pause c r attempt cause
        transmitFrom c r t (attempt + 1) left
      else throw (.transport attempt cause)

def transmissionOf (r : ExchangeRequest) (wire : WireMessage) : Transmission :=
  { endpoint := r.endpoint, contentType := wire.contentType, body := wire.body,
    messageId := r.envelope.messageId }

def transmit (c : Circumstances) (r : ExchangeRequest) (wire : WireMessage) :
    Exchange (Nat × Response) :=
  transmitFrom c r (transmissionOf r wire) 1 (r.retry.maxAttempts - 1)

def signaturePolicy (c : Circumstances) (r : ExchangeRequest) : SignaturePolicy :=
  { suite := c.suite, credentials := r.credentials, required := r.requireSignedResponse,
    verifiedAt := c.verifiedAt }

/-- Counts a verification, if one takes place. -/
def countVerification (policy : SignaturePolicy) (received : Option Envelope) :
    Exchange Unit :=
  if policy.verifies received then
    count (.ofResult .signatureVerifications
      (match policy.check received with
        | .ok _ => "valid"
        | .error _ => "invalid"))
  else pure ()

def accept (c : Circumstances) (r : ExchangeRequest) (attempts : Nat) (response : Response) :
    Exchange Answer := do
  let received ← orFail (receivedIn response)
  let policy := signaturePolicy c r
  countVerification policy received
  let verified ← orFail (judge policy r.expected response.status received)
  pure
    { requestMessageId := r.envelope.messageId, attempts, status := response.status,
      envelope := received, verified }

def deliver (r : ExchangeRequest) (wire : WireMessage) (response : Response) (answer : Answer) :
    Exchange Unit := do
  observe r.observers (.outgoing answer.requestMessageId wire.contentType wire.body)
  observe r.observers (.incoming answer.requestMessageId response.contentType response.body)
  observe r.observers (.response answer)
  match answer.userMessage? with
  | some message => observe r.observers (.userMessage message answer.attachments)
  | none => pure ()

def finish (c : Circumstances) (r : ExchangeRequest) (wire : WireMessage)
    (answered : Nat × Response) : Exchange Answer := do
  enter .awaitingResponse
  let _ ← retain .working answered.2.body
  let answer ← accept c r answered.1 answered.2
  enter .done
  deliver r wire answered.2 answer
  pure answer

def run (c : Circumstances) (r : ExchangeRequest) : Exchange Answer := do
  let wire ← prepare c r
  let answered ← transmit c r wire
  finish c r wire answered

def resultName : Except ExchangeError Answer → String
  | .ok _ => "success"
  | .error error => error.kind

def conclude (result : Except ExchangeError Answer) (j : Journal) : Journal :=
  { j with
    phase := match result with
      | .ok _ => j.phase
      | .error _ => .failed
    counts := j.counts ++ [.ofResult .exchanges (resultName result), .of .exchangeDuration] }

/-- Runs an exchange; the result is counted, and a failure is a state. -/
def execute (c : Circumstances) (r : ExchangeRequest) (start : Journal) :
    Except ExchangeError Answer × Journal :=
  let (result, journal) := (run c r).runFrom start
  (result, conclude result journal)

end Exchange

end Ebms
