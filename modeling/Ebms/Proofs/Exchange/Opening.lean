import Ebms.Exchange.Retained
import Ebms.Proofs.Exchange.Trace

/-! # How an exchange opens

What observers were told stays told: no step of an exchange takes a notice back, whatever
becomes of its spool files.  The first step tells of the message as it was built.  So that
is the first notice of all, and an exchange whose message is refused there has done nothing
else. -/

set_option autoImplicit false

namespace Ebms.Exchange

variable {α β : Type} {x : Exchange α} {next : α → Exchange β} {disk : Disk}
  {c : Circumstances} {r : ExchangeRequest}

def Grows (x : Exchange α) : Prop := ∀ j, j.notices <+: (x.runFrom j).2.notices

theorem Keeps.grows (keeps : Keeps x Journal.notices) : Grows x := by
  intro j
  rewrite [keeps j]
  exact List.prefix_rfl

theorem Grows.bind (first : Grows x) (second : ∀ value, Grows (next value)) :
    Grows (x >>= next) := by
  intro j
  have before := first j
  cases ran : x.runFrom j with
  | mk result k =>
      rw [ran] at before
      cases result with
      | error error =>
          rw [runFrom_bind_of_error ran]
          exact before
      | ok value =>
          rw [runFrom_bind_of_ok ran]
          exact before.trans (second value k)

theorem Tells.grows {o : Observers} {agenda : List Notice}
    (tells : ∀ j, ∃ told, Tells o agenda told x j) : Grows x := by
  intro j
  obtain ⟨told, tells⟩ := tells j
  rw [tells.notices]
  exact List.prefix_append _ _

/-! ## The stages -/

theorem grows_signed (c : Circumstances) (r : ExchangeRequest) : Grows (signed c r) := by
  obtain ⟨_, signs⟩ := exists_tells_signed c r
  exact Tells.grows fun j => (signs j).1

theorem keeps_attemptKept (message : KeptMessage) (attempt : Nat) :
    Keeps (attemptKept disk c r message attempt) Journal.notices := by
  unfold attemptKept
  refine Keeps.bind (Keeps.modify fun _ => rfl) fun _ => ?_
  refine Keeps.bind (Keeps.modify fun _ => rfl) fun _ => ?_
  refine Keeps.bind (Keeps.fetch disk _) fun body => ?_
  refine Keeps.bind (Keeps.modify fun _ => rfl) fun _ => ?_
  exact Keeps.bind (Keeps.forM_wait fun _ _ => rfl) fun _ => Keeps.pure _

theorem grows_pause (attempt : Nat) (cause : TransportError) :
    Grows (pause c r attempt cause) := by
  intro j
  rw [runFrom_pause]
  exact List.prefix_append _ _

theorem grows_transmitKeptFrom (message : KeptMessage) (first left : Nat) :
    Grows (transmitKeptFrom disk c r message first left) := by
  induction left generalizing first with
  | zero =>
      refine Grows.bind (keeps_attemptKept message first).grows fun received => ?_
      cases received with
      | ok response => exact (Keeps.pure _).grows
      | error cause => exact (Keeps.throw _).grows
  | succ left inductionHypothesis =>
      refine Grows.bind (keeps_attemptKept message first).grows fun received => ?_
      cases received with
      | ok response => exact (Keeps.pure _).grows
      | error cause =>
          by_cases passing : cause.isRetriable = true
          · simp only [if_pos passing]
            exact Grows.bind (grows_pause first cause) fun _ => inductionHypothesis (first + 1)
          · simp only [if_neg passing]
            exact (Keeps.throw _).grows

theorem grows_deliverKept (message : KeptMessage) (response : Response) (answer : Answer) :
    Grows (deliverKept disk r message response answer) := by
  have delivers (body : Bytes) :
      Grows (deliver r { contentType := message.contentType, body } response answer) :=
    Tells.grows (exists_tells_deliver r _ response answer)
  unfold deliverKept
  split
  · exact Grows.bind (Keeps.fetch disk _).grows delivers
  · exact Grows.bind (Keeps.pure _).grows delivers

theorem grows_finishKept (message : KeptMessage) (answered : Nat × Response) :
    Grows (finishKept disk c r message answered) := by
  unfold finishKept
  refine Grows.bind (Keeps.modify fun _ => rfl).grows fun _ => ?_
  refine Grows.bind (Keeps.retain fun _ _ => rfl).grows fun handle => ?_
  refine Grows.bind (Keeps.fetch disk handle).grows fun body => ?_
  refine Grows.bind (keeps_accept fun _ _ => rfl).grows fun answer => ?_
  refine Grows.bind (Keeps.modify fun _ => rfl).grows fun _ => ?_
  exact Grows.bind (grows_deliverKept message _ answer) fun _ => (Keeps.pure _).grows

/-! ## The whole exchange -/

def afterBuilt (disk : Disk) (c : Circumstances) (r : ExchangeRequest) : Exchange Answer := do
  enter .signing
  let envelope ← signed c r
  let wire := envelope.encode c.boundary
  let handle ← retain disk wire.body
  let message : KeptMessage := { contentType := wire.contentType, handle }
  let answered ← transmitKeptFrom disk c r message 1 (r.retry.maxAttempts - 1)
  finishKept disk c r message answered

theorem grows_afterBuilt : Grows (afterBuilt disk c r) := by
  unfold afterBuilt
  refine Grows.bind (Keeps.modify fun _ => rfl).grows fun _ => ?_
  refine Grows.bind (grows_signed c r) fun envelope => ?_
  refine Grows.bind (Keeps.retain fun _ _ => rfl).grows fun handle => ?_
  exact Grows.bind (grows_transmitKeptFrom _ 1 _) fun answered => grows_finishKept _ answered

theorem runKept_eq : runKept disk c r =
    enter .building >>= fun _ => observe r.observers (.built r.envelope) >>= fun _ =>
      afterBuilt disk c r := by
  simp only [runKept, prepareKept, afterBuilt, bind_assoc, pure_bind]

theorem runFrom_observe_watched {o : Observers} (notice : Notice)
    (watched : o.watches notice.slot = true) (j : Journal) :
    (observe o notice).runFrom j =
      ((o.reply notice).mapError Refusal.toError, { j with notices := j.notices ++ [notice] }) := by
  rw [runFrom_observe, Observers.verdict, if_pos watched, Observers.told_singleton, if_pos watched]

/-- Whoever is told of messages that were built is told of this one before all else. -/
theorem built_first (watched : r.observers.watches .build = true) (start : Journal) :
    start.notices ++ [.built r.envelope] <+:
      ((runKept disk c r).runFrom start).2.notices := by
  have building := runFrom_observe_watched (.built r.envelope) watched
    { start with phase := .building }
  rw [runKept_eq]
  unfold enter
  rw [runFrom_modify_bind]
  cases reply : r.observers.reply (.built r.envelope) with
  | error refusal =>
      rw [reply] at building
      rewrite [runFrom_bind_of_error building]
      exact List.prefix_rfl
  | ok _ =>
      rw [reply] at building
      rw [runFrom_bind_of_ok building]
      exact grows_afterBuilt
        { start with phase := .building, notices := start.notices ++ [.built r.envelope] }

/-- A message that is refused as it was built is the end of its exchange. -/
theorem runKept_of_built_refused (watched : r.observers.watches .build = true) {refusal : Refusal}
    (refused : r.observers.reply (.built r.envelope) = .error refusal) (start : Journal) :
    (runKept disk c r).runFrom start =
      (.error refusal.toError,
        { start with phase := .building, notices := start.notices ++ [.built r.envelope] }) := by
  have building := runFrom_observe_watched (.built r.envelope) watched
    { start with phase := .building }
  rw [refused] at building
  rw [runKept_eq]
  unfold enter
  rw [runFrom_modify_bind, runFrom_bind_of_error building]

end Ebms.Exchange
