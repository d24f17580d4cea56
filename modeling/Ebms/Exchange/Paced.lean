import Ebms.Exchange.Run

/-! # An exchange whose answers take their time

A partner may take a while to answer an attempt, or to refuse it.  The clock goes on for as
long, and what has not come by the end of the attempt's limit is not waited for.  An exchange
in which whatever comes does so at once is a special case. -/

set_option autoImplicit false

namespace Ebms

/-- What becomes of a transmission that begins when `passed` has passed, and the waits for
it: whatever comes takes the time of `pace`, and what takes longer than the limit does not
come. -/
def Outcome.paced (outcome : Outcome) (clock : Clock) (limit passed : Span)
    (pace : Option Span) : Outcome × List Span :=
  match outcome, pace with
  | .silent, _ => (.silent, [limit])
  | outcome, none => (outcome, [])
  | outcome, some pace =>
    if (clock.lasting passed pace).nanos ≤ (clock.lasting passed limit).nanos then (outcome, [pace])
    else (.silent, [limit])

namespace Exchange

def attemptPaced (c : Circumstances) (pace : Nat → Option Span) (t : Transmission)
    (attempt : Nat) : Exchange (Except TransportError Response) := do
  enter .transmitting
  count (.of .transmitAttempts)
  send t
  let j ← get
  let (outcome, waits) :=
    (c.outcome attempt).paced c.clock c.attemptLimit j.elapsed (pace attempt)
  waits.forM (wait c.clock)
  pure (outcome.received c.attemptLimit)

def transmitPacedFrom (c : Circumstances) (pace : Nat → Option Span) (r : ExchangeRequest)
    (t : Transmission) (attempt : Nat) : Nat → Exchange (Nat × Response)
  | 0 => do
    match ← attemptPaced c pace t attempt with
    | .ok response => pure (attempt, response)
    | .error cause => throw (.transport attempt cause)
  | left + 1 => do
    match ← attemptPaced c pace t attempt with
    | .ok response => pure (attempt, response)
    | .error cause =>
      if cause.isRetriable then do
        pause c r attempt cause
        transmitPacedFrom c pace r t (attempt + 1) left
      else throw (.transport attempt cause)

def runPaced (c : Circumstances) (pace : Nat → Option Span) (r : ExchangeRequest) :
    Exchange Answer := do
  let wire ← prepare c r
  let answered ← transmitPacedFrom c pace r (transmissionOf r wire) 1 (r.retry.maxAttempts - 1)
  finish c r wire answered

/-- Runs an exchange whose answers take their time. -/
def executePaced (c : Circumstances) (pace : Nat → Option Span) (r : ExchangeRequest)
    (start : Journal) : Except ExchangeError Answer × Journal :=
  let (result, journal) := (runPaced c pace r).runFrom start
  (result, conclude result journal)

end Exchange

end Ebms
