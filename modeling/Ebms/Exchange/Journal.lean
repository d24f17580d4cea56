import Ebms.Exchange.Observer
import Ebms.Metrics
import Ebms.Resources
import Ebms.Time.Clock

/-! # The journal of an exchange

An exchange leaves a record of all that can be seen of it: the state it is in,
the notices given, the transmissions made, the time passed, the resources held
and what was counted.  An exchange is a computation that fails or succeeds and
in either case extends the journal.  The clock that it waits by and the disk that
its spool files lie on are given from outside. -/

set_option autoImplicit false

namespace Ebms

inductive Phase where
  | idle
  | building
  | signing
  | transmitting
  | awaitingResponse
  | done
  | failed
  deriving DecidableEq, Repr, Inhabited

def Phase.name : Phase → String
  | .idle => "idle"
  | .building => "building"
  | .signing => "signing"
  | .transmitting => "transmitting"
  | .awaitingResponse => "awaiting-response"
  | .done => "done"
  | .failed => "failed"

/-- What can be seen of an exchange. -/
structure Journal where
  phase : Phase
  notices : List Notice
  sent : List Transmission
  elapsed : Span
  /-- The scope of the exchange, with what it shares. -/
  held : Holding
  /-- The spool files outstanding at each retry, oldest first. -/
  spooledAtRetries : List Nat
  counts : List Count
  deriving Inhabited

def Journal.start (held : Holding) : Journal :=
  { phase := .idle, notices := [], sent := [], elapsed := { nanos := 0 }, held,
    spooledAtRetries := [], counts := [] }

/-- What becomes of the spool files of an exchange: why one cannot be written or read when the
journal stands where it does, if it cannot. -/
structure Disk where
  writeFault? (j : Journal) : Option String
  readFault? (j : Journal) : Option String

namespace Disk

def working : Disk := { writeFault? := fun _ => none, readFault? := fun _ => none }

/-- Why a body cannot be retained; one that stays in memory always can. -/
def retainFault? (disk : Disk) (j : Journal) (body : Bytes) : Option String :=
  (disk.writeFault? j).filter fun _ => j.held.scope.threshold < body.length

def fetchFault? (disk : Disk) (j : Journal) (resource : Resource) : Option String :=
  (disk.readFault? j).filter fun _ => resource.isSpooled

end Disk

/-- A computation that extends the journal and may fail. -/
abbrev Exchange (α : Type) := ExceptT ExchangeError (StateM Journal) α

namespace Exchange

def runFrom {α : Type} (x : Exchange α) (journal : Journal) :
    Except ExchangeError α × Journal := x.run journal

def enter (phase : Phase) : Exchange Unit := modify fun j => { j with phase }

def count (c : Count) : Exchange Unit := modify fun j => { j with counts := j.counts ++ [c] }

def wait (clock : Clock) (span : Span) : Exchange Unit :=
  modify fun j =>
    { j with elapsed := { nanos := j.elapsed.nanos + (clock.lasting j.elapsed span).nanos } }

/-- Retains a body, in a spool file if it is large; the result is its handle. -/
def retain (disk : Disk) (body : Bytes) : Exchange Nat := do
  let j ← get
  match disk.retainFault? j body with
  | some reason => throw (.wrapped reason)
  | none => do
    set { j with held := j.held.retain body }
    pure j.held.scope.held.length

def fetch (disk : Disk) (handle : Nat) : Exchange Bytes := do
  let j ← get
  match j.held.read handle with
  | .error error => throw (.wrapped error.message)
  | .ok resource =>
    match disk.fetchFault? j resource with
    | some reason => throw (.wrapped reason)
    | none => pure resource.data

def send (t : Transmission) : Exchange Unit := modify fun j => { j with sent := j.sent ++ [t] }

/-- Tells an observer, whatever it replies. -/
def announce (observers : Observers) (notice : Notice) : Exchange Unit :=
  if observers.watches notice.slot then
    modify fun j => { j with notices := j.notices ++ [notice] }
  else pure ()

/-- Tells an observer, and fails when it refuses. -/
def observe (observers : Observers) (notice : Notice) : Exchange Unit := do
  announce observers notice
  if observers.watches notice.slot then
    match observers.reply notice with
    | .ok () => pure ()
    | .error refusal => throw refusal.toError
  else pure ()

end Exchange

end Ebms
