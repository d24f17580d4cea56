import Ebms.Exchange.Run

/-! # An exchange that reads its bodies back

The bodies of an exchange lie in its scope, in memory or in a spool file.  The message
is written there once and read back for every attempt, and again for whoever watches
the bytes that go out; the response is written there too and read back before it is
decoded.  Between these steps only a handle is carried along.  What the disk refuses to
write or to read ends the exchange. -/

set_option autoImplicit false

namespace Ebms

/-- An encoded message whose body lies in a scope. -/
structure KeptMessage where
  contentType : String
  handle : Nat
  deriving DecidableEq, Repr, Inhabited

namespace Exchange

def prepareKept (disk : Disk) (c : Circumstances) (r : ExchangeRequest) : Exchange KeptMessage := do
  enter .building
  observe r.observers (.built r.envelope)
  enter .signing
  let envelope ← signed c r
  let wire := envelope.encode c.boundary
  let handle ← retain disk wire.body
  pure { contentType := wire.contentType, handle }

def attemptKept (disk : Disk) (c : Circumstances) (r : ExchangeRequest) (message : KeptMessage)
    (attempt : Nat) : Exchange (Except TransportError Response) := do
  enter .transmitting
  count (.of .transmitAttempts)
  let body ← fetch disk message.handle
  send (transmissionOf r { contentType := message.contentType, body })
  ((c.outcome attempt).waits c.attemptLimit).forM (wait c.clock)
  pure ((c.outcome attempt).received c.attemptLimit)

def transmitKeptFrom (disk : Disk) (c : Circumstances) (r : ExchangeRequest) (message : KeptMessage)
    (attempt : Nat) : Nat → Exchange (Nat × Response)
  | 0 => do
    match ← attemptKept disk c r message attempt with
    | .ok response => pure (attempt, response)
    | .error cause => throw (.transport attempt cause)
  | left + 1 => do
    match ← attemptKept disk c r message attempt with
    | .ok response => pure (attempt, response)
    | .error cause =>
      if cause.isRetriable then do
        pause c r attempt cause
        transmitKeptFrom disk c r message (attempt + 1) left
      else throw (.transport attempt cause)

/-- The message is read once more only for an observer that watches what goes
out. -/
def deliverKept (disk : Disk) (r : ExchangeRequest) (message : KeptMessage) (response : Response)
    (answer : Answer) : Exchange Unit := do
  let body ← if r.observers.watches .outgoing then fetch disk message.handle else pure []
  deliver r { contentType := message.contentType, body } response answer

def finishKept (disk : Disk) (c : Circumstances) (r : ExchangeRequest) (message : KeptMessage)
    (answered : Nat × Response) : Exchange Answer := do
  enter .awaitingResponse
  let handle ← retain disk answered.2.body
  let body ← fetch disk handle
  let response := { answered.2 with body }
  let answer ← accept c r answered.1 response
  enter .done
  deliverKept disk r message response answer
  pure answer

def runKept (disk : Disk) (c : Circumstances) (r : ExchangeRequest) : Exchange Answer := do
  let message ← prepareKept disk c r
  let answered ← transmitKeptFrom disk c r message 1 (r.retry.maxAttempts - 1)
  finishKept disk c r message answered

/-- Runs an exchange whose bodies are read back from its scope. -/
def executeKept (disk : Disk) (c : Circumstances) (r : ExchangeRequest) (start : Journal) :
    Except ExchangeError Answer × Journal :=
  let (result, journal) := (runKept disk c r).runFrom start
  (result, conclude result journal)

end Exchange

end Ebms
