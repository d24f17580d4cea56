import Ebms.Proofs.Exchange.Steps

/-! # The course of the transmissions

The attempts of an exchange run a course: some fail for a passing reason and are
followed by a pause, and a last one is answered, fails for good, or fails and is
cancelled in its pause.  The causes of the failures and the ending determine
everything that the attempts leave in the journal. -/

set_option autoImplicit false

namespace Ebms

/-- Whether an attempt fails for a reason that may pass: no connection, no answer in
time, or a server error without a SOAP message. -/
def Outcome.isPassing : Outcome → Bool
  | .answered response =>
      decide (500 ≤ response.status ∧ response.status ≤ 599) &&
        !response.contentType.any isSoapContentType
  | .failed (.unreachable ..) | .failed (.timeout _) | .failed (.serverError _) | .silent => true
  | .failed _ => false

def Circumstances.received (c : Circumstances) (attempt : Nat) : Except TransportError Response :=
  (c.outcome attempt).received c.attemptLimit

theorem Outcome.isPassing_iff {outcome : Outcome} {limit : Span} :
    outcome.isPassing = true ↔
      ∃ cause, outcome.received limit = .error cause ∧ cause.isRetriable = true := by
  cases outcome with
  | silent => simp [isPassing, received, TransportError.isRetriable]
  | failed error => cases error <;> simp [isPassing, received, TransportError.isRetriable]
  | answered response =>
      -- The cases are those of the classification of a status.
      by_cases success : 200 ≤ response.status ∧ response.status ≤ 299
      · have notServer : ¬ (500 ≤ response.status ∧ response.status ≤ 599) := by omega
        simp [isPassing, received, classifyStatus, success, notServer]
      by_cases denied : response.status = 401 ∨ response.status = 403
      · have notServer : ¬ (500 ≤ response.status ∧ response.status ≤ 599) := by omega
        simp [isPassing, received, classifyStatus, success, denied, notServer,
          TransportError.isRetriable]
      by_cases server : 500 ≤ response.status ∧ response.status ≤ 599
      · cases soap : response.contentType.any isSoapContentType <;>
          simp [isPassing, received, classifyStatus, success, denied, server, soap,
            TransportError.isRetriable]
      · simp [isPassing, received, classifyStatus, success, denied, server,
          TransportError.isRetriable]

inductive Ending where
  | answered (response : Response)
  | failed (cause : TransportError)
  /-- The attempt fails, and the exchange is cancelled in the pause after it. -/
  | cancelled (cause : TransportError)

namespace Ending

def received : Ending → Except TransportError Response
  | .answered response => .ok response
  | .failed cause | .cancelled cause => .error cause

def result (attempt : Nat) : Ending → Except ExchangeError (Nat × Response)
  | .answered response => .ok (attempt, response)
  | .failed cause => .error (.transport attempt cause)
  | .cancelled _ => .error (.cancelled attempt)

def paused (causes : List TransportError) : Ending → List TransportError
  | .cancelled cause => causes ++ [cause]
  | _ => causes

def Stops (c : Circumstances) (attempt spare : Nat) : Ending → Prop
  | .answered _ => True
  | .failed cause => spare = 0 ∨ cause.isRetriable = false
  | .cancelled cause => 0 < spare ∧ cause.isRetriable = true ∧ c.cancelled attempt = true

end Ending

/-- The attempts from `first` on, with `left` more allowed after it: those before the
last one fail for the given causes. -/
structure Circumstances.Course (c : Circumstances) (first left : Nat)
    (causes : List TransportError) (ending : Ending) : Prop where
  allowed : causes.length ≤ left
  failed : (List.range' first causes.length).map c.received = causes.map .error
  passing : ∀ cause ∈ causes, cause.isRetriable = true
  uncancelled : ∀ k, first ≤ k → k < first + causes.length → c.cancelled k = false
  last : c.received (first + causes.length) = ending.received
  stops : ending.Stops c (first + causes.length) (left - causes.length)

namespace Circumstances.Course

variable {c : Circumstances} {first left : Nat} {causes : List TransportError} {ending : Ending}

theorem only (last : c.received first = ending.received) (stops : ending.Stops c first left) :
    c.Course first left [] ending where
  allowed := Nat.zero_le left
  failed := rfl
  passing := by
    intro cause member
    cases member
  uncancelled := by
    intro k after before
    exact absurd before (Nat.not_lt.mpr after)
  last
  stops

theorem cons {cause : TransportError} (received : c.received first = .error cause)
    (passing : cause.isRetriable = true) (going : c.cancelled first = false)
    (later : c.Course (first + 1) left causes ending) :
    c.Course first (left + 1) (cause :: causes) ending where
  allowed := Nat.succ_le_succ later.allowed
  failed := by
    rw [List.length_cons, List.range'_succ, List.map_cons, List.map_cons, received, later.failed]
  passing := by
    intro other member
    rcases List.mem_cons.mp member with rfl | member
    · exact passing
    · exact later.passing other member
  uncancelled := by
    intro k after before
    rw [List.length_cons] at before
    by_cases same : k = first
    · rw [same, going]
    · exact later.uncancelled k (by omega) (by omega)
  last := by
    rw [List.length_cons, ← later.last, Nat.add_right_comm, Nat.add_assoc]
  stops := by
    rw [List.length_cons, Nat.add_sub_add_right, Nat.add_comm causes.length, ← Nat.add_assoc]
    exact later.stops

/-- The pauses that are made follow the attempts before the last one, and the last one
too when the exchange is cancelled. -/
theorem paused_failed (course : c.Course first left causes ending) :
    (List.range' first (ending.paused causes).length).map c.received =
      (ending.paused causes).map .error := by
  cases ending with
  | answered response => exact course.failed
  | failed cause => exact course.failed
  | cancelled cause =>
      have last : c.received (first + causes.length) = .error cause := course.last
      simp [Ending.paused, List.range'_concat, course.failed, last]

end Circumstances.Course

def retryNotices (first : Nat) (causes : List TransportError) : List Notice :=
  List.zipWith .retry (List.range' first causes.length) causes

/-- The waits of some attempts, with a pause after each one below `unpaused`. -/
def Circumstances.waits (c : Circumstances) (retry : RetryPolicy) (unpaused : Nat)
    (attempts : List Nat) : List Span :=
  attempts.flatMap fun attempt =>
    (c.outcome attempt).waits c.attemptLimit ++
      if attempt < unpaused then [retry.delay attempt] else []

namespace Journal

variable (c : Circumstances) (r : ExchangeRequest) (t : Transmission)

def attempted (attempt : Nat) (j : Journal) : Journal :=
  { j with
    phase := .transmitting
    counts := j.counts ++ [.of .transmitAttempts]
    sent := j.sent ++ [t]
    elapsed := c.clock.after j.elapsed ((c.outcome attempt).waits c.attemptLimit) }

def paused (attempt : Nat) (cause : TransportError) (j : Journal) : Journal :=
  { j with
    counts := j.counts ++ [.of .retries]
    notices := j.notices ++ r.observers.told [.retry attempt cause]
    spooledAtRetries := j.spooledAtRetries ++ [j.held.tracker.outstandingSpooled]
    elapsed := c.clock.after j.elapsed [r.retry.delay attempt] }

def transmitted (ending : Ending) : Nat → List TransportError → Journal → Journal
  | first, [], j =>
      match ending with
      | .cancelled cause => (j.attempted c t first).paused c r first cause
      | _ => j.attempted c t first
  | first, cause :: causes, j =>
      transmitted ending (first + 1) causes ((j.attempted c t first).paused c r first cause)

end Journal

namespace Exchange

variable {c : Circumstances} {r : ExchangeRequest} {t : Transmission}

theorem runFrom_attemptOnce (attempt : Nat) (j : Journal) :
    (attemptOnce c t attempt).runFrom j = (.ok (c.received attempt), j.attempted c t attempt) := by
  unfold attemptOnce enter count send
  rw [runFrom_modify_bind, runFrom_modify_bind, runFrom_modify_bind,
    runFrom_bind_of_ok (runFrom_forM_wait _ _ _)]
  rfl

theorem runFrom_pause (attempt : Nat) (cause : TransportError) (j : Journal) :
    (pause c r attempt cause).runFrom j =
      (if c.cancelled attempt then .error (.cancelled attempt) else .ok (),
        j.paused c r attempt cause) := by
  unfold pause count noteSpooled wait
  rw [runFrom_modify_bind, runFrom_bind_of_ok (runFrom_announce _ _ _), runFrom_modify_bind,
    runFrom_modify_bind]
  split <;> rfl

theorem transmitFrom_answered {first left : Nat} {response : Response}
    (received : c.received first = .ok response) (j : Journal) :
    (transmitFrom c r t first left).runFrom j =
      (.ok (first, response), j.attempted c t first) := by
  have attempt := runFrom_attemptOnce (c := c) (t := t) first j
  rw [received] at attempt
  cases left <;> rw [transmitFrom, runFrom_bind_of_ok attempt, runFrom_pure]

theorem transmitFrom_failed {first left : Nat} {cause : TransportError}
    (received : c.received first = .error cause)
    (final : left = 0 ∨ cause.isRetriable = false) (j : Journal) :
    (transmitFrom c r t first left).runFrom j =
      (.error (.transport first cause), j.attempted c t first) := by
  have attempt := runFrom_attemptOnce (c := c) (t := t) first j
  rw [received] at attempt
  cases left with
  | zero => rw [transmitFrom, runFrom_bind_of_ok attempt, runFrom_throw]
  | succ left =>
      have lasting : ¬ cause.isRetriable = true := by
        rcases final with none | lasting
        · cases none
        · simp [lasting]
      rw [transmitFrom, runFrom_bind_of_ok attempt]
      simp only [if_neg lasting, runFrom_throw]

theorem transmitFrom_paused {first left : Nat} {cause : TransportError}
    (received : c.received first = .error cause) (passing : cause.isRetriable = true)
    (j : Journal) :
    (transmitFrom c r t first (left + 1)).runFrom j =
      if c.cancelled first then
        (.error (.cancelled first), (j.attempted c t first).paused c r first cause)
      else
        (transmitFrom c r t (first + 1) left).runFrom
          ((j.attempted c t first).paused c r first cause) := by
  have attempt := runFrom_attemptOnce (c := c) (t := t) first j
  have pausing := runFrom_pause (c := c) (r := r) first cause (j.attempted c t first)
  rw [received] at attempt
  rw [transmitFrom, runFrom_bind_of_ok attempt]
  simp only [if_pos passing]
  split at pausing
  case isTrue cancelled => rw [runFrom_bind_of_error pausing, if_pos cancelled]
  case isFalse going => rw [runFrom_bind_of_ok pausing, if_neg going]

/-- The attempts run a course, which fixes their result and what they leave behind. -/
theorem transmitFrom_course (first left : Nat) (j : Journal) :
    ∃ causes ending, c.Course first left causes ending ∧
      (transmitFrom c r t first left).runFrom j =
        (ending.result (first + causes.length), j.transmitted c r t ending first causes) := by
  induction left generalizing first j with
  | zero =>
      cases received : c.received first with
      | ok response =>
          exact ⟨[], .answered response, .only received trivial,
            transmitFrom_answered received j⟩
      | error cause =>
          exact ⟨[], .failed cause, .only received (.inl rfl),
            transmitFrom_failed received (.inl rfl) j⟩
  | succ left inductionHypothesis =>
      cases received : c.received first with
      | ok response =>
          exact ⟨[], .answered response, .only received trivial,
            transmitFrom_answered received j⟩
      | error cause =>
          cases passing : cause.isRetriable with
          | false =>
              exact ⟨[], .failed cause, .only received (.inr passing),
                transmitFrom_failed received (.inr passing) j⟩
          | true =>
              have step : (transmitFrom c r t first (left + 1)).runFrom j = _ :=
                transmitFrom_paused received passing j
              cases cancelled : c.cancelled first with
              | true =>
                  rw [cancelled, if_pos rfl] at step
                  exact ⟨[], .cancelled cause,
                    .only received ⟨Nat.succ_pos left, passing, cancelled⟩, step⟩
              | false =>
                  rw [cancelled, if_neg Bool.false_ne_true] at step
                  obtain ⟨causes, ending, course, ran⟩ := inductionHypothesis (first + 1)
                    ((j.attempted c t first).paused c r first cause)
                  refine ⟨cause :: causes, ending, course.cons received passing cancelled, ?_⟩
                  rw [step, ran, List.length_cons, Journal.transmitted,
                    Nat.add_right_comm, Nat.add_assoc]

end Exchange

/-! ## What the attempts leave behind -/

theorem Ending.paused_cons (cause : TransportError) (causes : List TransportError)
    (ending : Ending) : ending.paused (cause :: causes) = cause :: ending.paused causes := by
  cases ending <;> rfl

theorem Ending.paused_of_completed {ending : Ending}
    (completed : ∀ cause, ending ≠ .cancelled cause) (causes : List TransportError) :
    ending.paused causes = causes := by
  cases ending with
  | answered response => rfl
  | failed cause => rfl
  | cancelled cause => exact absurd rfl (completed cause)

theorem retryNotices_cons (first : Nat) (cause : TransportError) (causes : List TransportError) :
    retryNotices first (cause :: causes) =
      .retry first cause :: retryNotices (first + 1) causes := by
  simp [retryNotices, List.range'_succ]

theorem Circumstances.waits_cons (c : Circumstances) (retry : RetryPolicy) (unpaused : Nat)
    (attempt : Nat) (attempts : List Nat) :
    c.waits retry unpaused (attempt :: attempts) =
      ((c.outcome attempt).waits c.attemptLimit ++
        if attempt < unpaused then [retry.delay attempt] else []) ++
        c.waits retry unpaused attempts := rfl

theorem slot_of_mem_retryNotices {first : Nat} {causes : List TransportError} {notice : Notice}
    (member : notice ∈ retryNotices first causes) : notice.slot = .retry := by
  induction causes generalizing first with
  | nil => cases member
  | cons cause causes inductionHypothesis =>
      rw [retryNotices_cons] at member
      rcases List.mem_cons.mp member with rfl | member
      · rfl
      · exact inductionHypothesis member

theorem attempt_of_mem_retryNotices {first attempt : Nat} {causes : List TransportError}
    {cause : TransportError} (member : .retry attempt cause ∈ retryNotices first causes) :
    first ≤ attempt ∧ attempt < first + causes.length := by
  induction causes generalizing first with
  | nil => cases member
  | cons other causes inductionHypothesis =>
      rw [retryNotices_cons] at member
      rw [List.length_cons]
      rcases List.mem_cons.mp member with same | member
      · cases same
        omega
      · have later := inductionHypothesis member
        omega

namespace Journal

variable {c : Circumstances} {r : ExchangeRequest} {t : Transmission} {ending : Ending}

theorem sent_transmitted (first : Nat) (causes : List TransportError) (j : Journal) :
    (j.transmitted c r t ending first causes).sent =
      j.sent ++ List.replicate (causes.length + 1) t := by
  induction causes generalizing first j with
  | nil => cases ending <;> rfl
  | cons cause causes inductionHypothesis =>
      have once : ((j.attempted c t first).paused c r first cause).sent = j.sent ++ [t] := rfl
      have times : List.replicate ((cause :: causes).length + 1) t =
          [t] ++ List.replicate (causes.length + 1) t := rfl
      rw [transmitted, inductionHypothesis, once, times, List.append_assoc]

theorem notices_transmitted (first : Nat) (causes : List TransportError) (j : Journal) :
    (j.transmitted c r t ending first causes).notices =
      j.notices ++ r.observers.told (retryNotices first (ending.paused causes)) := by
  induction causes generalizing first j with
  | nil =>
      cases ending with
      | answered response => simp [transmitted, attempted, Ending.paused, retryNotices,
          Observers.told]
      | failed cause => simp [transmitted, attempted, Ending.paused, retryNotices,
          Observers.told]
      | cancelled cause => rfl
  | cons cause causes inductionHypothesis =>
      rw [transmitted, inductionHypothesis, Ending.paused_cons, retryNotices_cons,
        ← List.singleton_append, Observers.told_append, ← List.append_assoc]
      rfl

theorem held_transmitted (first : Nat) (causes : List TransportError) (j : Journal) :
    (j.transmitted c r t ending first causes).held = j.held := by
  induction causes generalizing first j with
  | nil => cases ending <;> rfl
  | cons cause causes inductionHypothesis =>
      rw [transmitted, inductionHypothesis]
      rfl

theorem elapsed_transmitted (first : Nat) (causes : List TransportError) (j : Journal) :
    (j.transmitted c r t ending first causes).elapsed =
      c.clock.after j.elapsed (c.waits r.retry (first + (ending.paused causes).length)
        (List.range' first (causes.length + 1))) := by
  induction causes generalizing first j with
  | nil =>
      cases ending with
      | answered response => simp [transmitted, attempted, Ending.paused, Circumstances.waits]
      | failed cause => simp [transmitted, attempted, Ending.paused, Circumstances.waits]
      | cancelled cause =>
          simp [transmitted, attempted, paused, Ending.paused, Circumstances.waits,
            Clock.after_append]
  | cons cause causes inductionHypothesis =>
      have here : first < first + (ending.paused (cause :: causes)).length := by
        rw [Ending.paused_cons, List.length_cons]
        omega
      have later : first + (ending.paused (cause :: causes)).length =
          first + 1 + (ending.paused causes).length := by
        rw [Ending.paused_cons, List.length_cons]
        omega
      have attempts : List.range' first ((cause :: causes).length + 1) =
          first :: List.range' (first + 1) (causes.length + 1) := rfl
      rw [transmitted, inductionHypothesis, attempts, Circumstances.waits_cons, if_pos here, later,
        Clock.after_append, Clock.after_append]
      rfl

end Journal

theorem Exchange.keeps_transmitFrom (c : Circumstances) (r : ExchangeRequest) (t : Transmission)
    (first left : Nat) : Keeps (transmitFrom c r t first left) Journal.held := by
  intro j
  obtain ⟨causes, ending, -, ran⟩ := transmitFrom_course (c := c) (r := r) (t := t) first left j
  rw [ran, Journal.held_transmitted]

end Ebms
