import Ebms.Proofs.Exchange.Stages
import Ebms.Proofs.Exchange.Transmissions
import Mathlib

/-! # The retry budget

The number of transmissions of an exchange is fixed by two numbers: the first attempt
that does not fail for a passing reason, and the attempts that the retry policy allows.
Unless the exchange is cancelled in a pause before, the smaller one is the last attempt.
So many transmissions are made, each pause before it is announced, and the time that
passes is that of the pauses and of the attempts without an answer.  The clock goes by
whole milliseconds, so that each of these waits lasts as long as it is meant to or up to
a millisecond longer, for as long as the clock can tell the time. -/

set_option autoImplicit false

namespace Ebms

/-! ## The last attempt -/

namespace Circumstances

/-- The first attempt that does not fail for a passing reason, if there is one. -/
noncomputable def firstDecisive? (c : Circumstances) : Option Nat :=
  open Classical in
  if found : ∃ n, 1 ≤ n ∧ (c.outcome n).isPassing = false then some (Nat.find found) else none

noncomputable def lastAttempt (c : Circumstances) (retry : RetryPolicy) : Nat :=
  let budget := min (retry.maxRetries.toNat + 1) (2 ^ 32 - 1)
  min (c.firstDecisive?.getD budget) budget

/-- What makes an attempt the last one of an exchange that is not cancelled. -/
structure IsLast (c : Circumstances) (retry : RetryPolicy) (attempt : Nat) : Prop where
  positive : 1 ≤ attempt
  allowed : attempt ≤ retry.maxAttempts
  passing : ∀ k, 1 ≤ k → k < attempt → (c.outcome k).isPassing = true
  decided : attempt = retry.maxAttempts ∨ (c.outcome attempt).isPassing = false

end Circumstances

theorem RetryPolicy.maxAttempts_eq (retry : RetryPolicy) :
    retry.maxAttempts = min (retry.maxRetries.toNat + 1) (2 ^ 32 - 1) := rfl

theorem RetryPolicy.one_le_maxAttempts (retry : RetryPolicy) : 1 ≤ retry.maxAttempts := by
  rw [maxAttempts_eq]
  omega

namespace Circumstances

variable {c : Circumstances} {retry : RetryPolicy}

theorem of_firstDecisive?_eq_some {n : Nat} (first : c.firstDecisive? = some n) :
    1 ≤ n ∧ (c.outcome n).isPassing = false ∧
      ∀ k, 1 ≤ k → k < n → (c.outcome k).isPassing = true := by
  unfold firstDecisive? at first
  split at first
  case isFalse => cases first
  case isTrue found =>
    classical
    obtain rfl := Option.some.inj first
    obtain ⟨positive, decisive⟩ := Nat.find_spec found
    refine ⟨positive, decisive, ?_⟩
    intro k started before
    have passing := Nat.find_min found before
    simpa [started] using passing

theorem of_firstDecisive?_eq_none (none : c.firstDecisive? = none) {k : Nat} (started : 1 ≤ k) :
    (c.outcome k).isPassing = true := by
  unfold firstDecisive? at none
  split at none
  case isTrue => cases none
  case isFalse missing =>
    by_contra decisive
    exact missing ⟨k, started, by simpa using decisive⟩

theorem isLast_lastAttempt (c : Circumstances) (retry : RetryPolicy) :
    c.IsLast retry (c.lastAttempt retry) := by
  have budget := retry.one_le_maxAttempts
  unfold lastAttempt
  rw [← RetryPolicy.maxAttempts_eq]
  cases first : c.firstDecisive? with
  | none =>
      have passing : ∀ k, 1 ≤ k → k < retry.maxAttempts → (c.outcome k).isPassing = true :=
        fun k started _ => of_firstDecisive?_eq_none first started
      simp only [Option.getD_none, Nat.min_self]
      exact ⟨budget, Nat.le_refl _, passing, .inl rfl⟩
  | some n =>
      obtain ⟨positive, decisive, passing⟩ := of_firstDecisive?_eq_some first
      simp only [Option.getD_some]
      refine ⟨by omega, Nat.min_le_right _ _, fun k started before => passing k started (by omega),
        ?_⟩
      by_cases spent : retry.maxAttempts ≤ n
      · exact .inl (Nat.min_eq_right spent)
      · right
        rw [Nat.min_eq_left (by omega)]
        exact decisive

theorem IsLast.le {first second : Nat} (one : c.IsLast retry first)
    (other : c.IsLast retry second) : second ≤ first := by
  by_contra later
  have before : first < second := not_le.mp later
  rcases one.decided with exhausted | decisive
  · exact absurd other.allowed (not_le.mpr (exhausted ▸ before))
  · rw [other.passing first one.positive before] at decisive
    cases decisive

theorem IsLast.unique {first second : Nat} (one : c.IsLast retry first)
    (other : c.IsLast retry second) : first = second :=
  le_antisymm (other.le one) (one.le other)

end Circumstances

namespace Circumstances.Course

variable {c : Circumstances} {retry : RetryPolicy} {first left : Nat}
  {causes : List TransportError} {ending : Ending}

theorem passing_of_lt (course : c.Course first left causes ending) {k : Nat} (after : first ≤ k)
    (before : k < first + causes.length) : (c.outcome k).isPassing = true := by
  obtain ⟨position, rfl⟩ := Nat.exists_eq_add_of_le after
  have inside : position < causes.length := by omega
  have received : c.received (first + position) = .error causes[position] := by
    have failed := congrArg (fun results => results[position]?) course.failed
    simpa [inside] using failed
  exact Outcome.isPassing_iff.mpr
    ⟨causes[position], received, course.passing _ (List.getElem_mem inside)⟩

theorem isLast (course : c.Course 1 (retry.maxAttempts - 1) causes ending)
    (completed : ∀ cause, ending ≠ .cancelled cause) : c.IsLast retry (1 + causes.length) := by
  have budget := retry.one_le_maxAttempts
  have allowed := course.allowed
  have last := course.last
  refine ⟨by omega, by omega, fun k started before => course.passing_of_lt started before, ?_⟩
  cases ending with
  | answered response =>
      right
      rw [← Bool.not_eq_true, Outcome.isPassing_iff]
      rintro ⟨cause, failed, _⟩
      exact nomatch failed.symm.trans last
  | failed cause =>
      rcases course.stops with spent | lasting
      · exact .inl (by omega)
      · right
        rw [← Bool.not_eq_true, Outcome.isPassing_iff]
        rintro ⟨other, failed, passing⟩
        have same : other = cause := Except.error.inj (failed.symm.trans last)
        rw [same, lasting] at passing
        cases passing
  | cancelled cause => exact absurd rfl (completed cause)

theorem cancelled_before_last {cause : TransportError} {last : Nat}
    (course : c.Course 1 (retry.maxAttempts - 1) causes (.cancelled cause))
    (isLast : c.IsLast retry last) : 1 + causes.length < last := by
  obtain ⟨spare, passing, _⟩ := course.stops
  have here : (c.outcome (1 + causes.length)).isPassing = true :=
    Outcome.isPassing_iff.mpr ⟨cause, course.last, passing⟩
  by_contra reached
  rcases isLast.decided with spent | decisive
  · omega
  · -- Every attempt of a course that is cancelled fails for a passing reason.
    have passing : (c.outcome last).isPassing = true := by
      by_cases same : last = 1 + causes.length
      · rw [same, here]
      · exact course.passing_of_lt isLast.positive (by omega)
    rw [passing] at decisive
    cases decisive

end Circumstances.Course

/-! ## The time that passes -/

/-- As long as the clock can tell the time, it goes forward by the waits rounded up. -/
theorem Clock.nanos_after {clock : Clock} {passed : Span} {waits : List Span}
    (inRange : passed.nanos + (waits.map fun span => span.roundedUp.nanos).sum
      < clock.reach.nanos) :
    (clock.after passed waits).nanos =
      passed.nanos + (waits.map fun span => span.roundedUp.nanos).sum := by
  induction waits generalizing passed with
  | nil => rfl
  | cons span later inductionHypothesis =>
      rw [List.map_cons, List.sum_cons, ← Nat.add_assoc] at inRange ⊢
      have once : clock.after passed [span] = ⟨passed.nanos + span.roundedUp.nanos⟩ := by
        rw [after, List.foldl_cons, List.foldl_nil,
          clock.lasting_eq (Nat.lt_of_le_of_lt (Nat.le_add_right _ _) inRange)]
      rw [← List.singleton_append, after_append, once, inductionHypothesis inRange]

/-- Whatever the clock can tell, it goes forward by no more than the waits rounded up. -/
theorem Clock.nanos_after_le (clock : Clock) (passed : Span) (waits : List Span) :
    (clock.after passed waits).nanos ≤
      passed.nanos + (waits.map fun span => span.roundedUp.nanos).sum := by
  induction waits generalizing passed with
  | nil => exact Nat.le_refl _
  | cons span later inductionHypothesis =>
      have once : (clock.after passed [span]).nanos ≤ passed.nanos + span.roundedUp.nanos := by
        rw [after, List.foldl_cons, List.foldl_nil]
        exact Nat.add_le_add_left (clock.lasting_le passed span) _
      rw [← List.singleton_append, after_append, List.map_append, List.sum_append,
        ← Nat.add_assoc]
      rw [List.map_singleton, List.sum_singleton]
      exact (inductionHypothesis _).trans (Nat.add_le_add_right once _)

/-- How long an exchange waits in some attempts, the first `pauses` of them with a pause
behind, by a clock of whole milliseconds. -/
def Circumstances.nanosWaited (c : Circumstances) (retry : RetryPolicy) (attempts pauses : Nat) :
    Nat :=
  ((c.waits retry (1 + pauses) (List.range' 1 attempts)).map fun span => span.roundedUp.nanos).sum

/-! ## The exchange -/

namespace Exchange

/-- What an exchange that prepared `envelope` has recorded after some attempts, the first
`pauses` of them with a pause behind. -/
structure HasTransmitted (c : Circumstances) (r : ExchangeRequest) (envelope : Envelope)
    (attempts pauses : Nat) (start finish : Journal) : Prop where
  sent : finish.sent = start.sent ++
    List.replicate attempts (transmissionOf r (envelope.encode c.boundary))
  told : ∃ causes, (List.range' 1 pauses).map c.received = causes.map .error ∧
    finish.retries = start.retries ++ r.observers.told (retryNotices 1 causes)
  elapsed : finish.elapsed =
    c.clock.after start.elapsed (c.waits r.retry (1 + pauses) (List.range' 1 attempts))
  ticked : start.elapsed.nanos + c.nanosWaited r.retry attempts pauses < c.clock.reach.nanos →
    finish.elapsed.nanos = start.elapsed.nanos + c.nanosWaited r.retry attempts pauses
  lasted : finish.elapsed.nanos ≤ start.elapsed.nanos + c.nanosWaited r.retry attempts pauses

def FollowsFrom (c : Circumstances) (r : ExchangeRequest) (last : Nat)
    (result : Except ExchangeError Answer) : Prop :=
  match c.received last with
  | .error cause => result = .error (.transport last cause)
  | .ok response =>
      (∀ answer, result = .ok answer → r.Accepts c last response answer) ∧
        (r.observers.IsWilling → ∀ answer, r.Accepts c last response answer → result = .ok answer)

variable {c : Circumstances} {r : ExchangeRequest} {envelope : Envelope}

theorem runFrom_run (prepared : r.IsPrepared c envelope) (start : Journal) :
    ∃ causes ending k, c.Course 1 (r.retry.maxAttempts - 1) causes ending ∧
      (prepare c r).runFrom start = (.ok (envelope.encode c.boundary), k) ∧
      (run c r).runFrom start =
        (orFail (ending.result (1 + causes.length)) >>=
            finish c r (envelope.encode c.boundary)).runFrom
          (k.transmitted c r (transmissionOf r (envelope.encode c.boundary)) ending 1 causes) := by
  obtain ⟨k, made⟩ := exists_prepare prepared start
  obtain ⟨causes, ending, course, ran⟩ :=
    transmitFrom_course (r := r) (t := transmissionOf r (envelope.encode c.boundary)) 1
      (r.retry.maxAttempts - 1) k
  refine ⟨causes, ending, k, course, made, ?_⟩
  cases ended : ending.result (1 + causes.length) with
  | error error =>
      rw [ended] at ran
      rw [run_of_transmit_error made ran, runFrom_bind_of_error (runFrom_orFail _ _)]
  | ok answered =>
      rw [ended] at ran
      rw [run_of_transmit_ok made ran, runFrom_bind_of_ok (runFrom_orFail _ _)]

theorem retries_transmitted (c : Circumstances) (r : ExchangeRequest) (t : Transmission)
    (ending : Ending) (first : Nat) (causes : List TransportError) (j : Journal) :
    (j.transmitted c r t ending first causes).retries =
      j.retries ++ r.observers.told (retryNotices first (ending.paused causes)) := by
  rw [Journal.retries, Journal.notices_transmitted, List.filter_append, ← Journal.retries]
  congr 1
  exact List.filter_eq_self.mpr fun notice told => by
    simpa using slot_of_mem_retryNotices (List.mem_filter.mp told).1

theorem hasTransmitted_transmitted {left : Nat} {causes : List TransportError} {ending : Ending}
    {start k finish : Journal} (course : c.Course 1 left causes ending)
    (before : k.transmissions = start.transmissions)
    (after : finish.transmissions =
      (k.transmitted c r (transmissionOf r (envelope.encode c.boundary)) ending 1
        causes).transmissions) :
    HasTransmitted c r envelope (1 + causes.length) (ending.paused causes).length start
      finish := by
  simp only [Journal.transmissions, Prod.mk.injEq] at before after
  obtain ⟨sent, elapsed, retries⟩ := before
  obtain ⟨sentAfter, elapsedAfter, retriesAfter⟩ := after
  have ticking : finish.elapsed = c.clock.after start.elapsed (c.waits r.retry
      (1 + (ending.paused causes).length) (List.range' 1 (1 + causes.length))) := by
    rw [elapsedAfter, Journal.elapsed_transmitted, elapsed, Nat.add_comm causes.length]
  refine ⟨?_, ⟨ending.paused causes, course.paused_failed, ?_⟩, ticking, ?_, ?_⟩
  · rw [sentAfter, Journal.sent_transmitted, sent, Nat.add_comm causes.length]
  · rw [retriesAfter, retries_transmitted, retries]
  · intro inRange
    rw [ticking]
    exact Clock.nanos_after inRange
  · rw [ticking]
    exact Clock.nanos_after_le _ _ _

theorem view_execute {γ : Type} {view : Journal → γ} {wire : WireMessage} {start k : Journal}
    {answered : Except ExchangeError (Nat × Response)}
    (finishes : ∀ answered, Keeps (finish c r wire answered) view)
    (concludes : ∀ result j, view (conclude result j) = view j)
    (ran : (run c r).runFrom start = (orFail answered >>= finish c r wire).runFrom k) :
    view (execute c r start).2 = view k := by
  rw [execute_eq, concludes, ran]
  exact Keeps.bind (Keeps.orFail answered) finishes k

theorem execute_of_prepared (prepared : r.IsPrepared c envelope) (start : Journal) :
    ∃ causes ending, c.Course 1 (r.retry.maxAttempts - 1) causes ending ∧
      HasTransmitted c r envelope (1 + causes.length) (ending.paused causes).length start
        (execute c r start).2 ∧
      ∃ k, (execute c r start).1 =
        ((orFail (ending.result (1 + causes.length)) >>=
          finish c r (envelope.encode c.boundary)).runFrom k).1 := by
  obtain ⟨causes, ending, k, course, made, ran⟩ := runFrom_run prepared start
  have prepares := keeps_prepare (c := c) (r := r) start
  rw [made] at prepares
  have before := Journal.transmissions_of_afterPreparing prepares
  have after := view_execute keeps_finish (fun _ _ => rfl) ran
  refine ⟨causes, ending, course, hasTransmitted_transmitted course before after, ?_⟩
  rw [execute_eq, ran]
  exact ⟨_, rfl⟩

theorem execute_uncancelled (prepared : r.IsPrepared c envelope) (start : Journal) {last : Nat}
    (isLast : c.IsLast r.retry last)
    (going : ∀ i, 1 ≤ i → i < last → c.cancelled i = false) :
    HasTransmitted c r envelope last (last - 1) start (execute c r start).2 ∧
      FollowsFrom c r last (execute c r start).1 := by
  obtain ⟨causes, ending, course, done, k, result⟩ := execute_of_prepared prepared start
  have completed : ∀ cause, ending ≠ .cancelled cause := by
    rintro cause rfl
    have cancelled : c.cancelled (1 + causes.length) = true := course.stops.2.2
    rw [going _ (by omega) (course.cancelled_before_last isLast)] at cancelled
    cases cancelled
  have same : 1 + causes.length = last := (course.isLast completed).unique isLast
  have paused := Ending.paused_of_completed completed causes
  have received := course.last
  rw [paused, same, show causes.length = last - 1 by omega] at done
  rw [same] at received result
  refine ⟨done, ?_⟩
  unfold FollowsFrom
  rw [received]
  cases ending with
  | answered response =>
      have finished : (execute c r start).1 =
          ((finish c r (envelope.encode c.boundary) (last, response)).runFrom k).1 := result
      refine ⟨fun answer ok => ?_, fun willing answer accepts => ?_⟩
      · exact accepts_of_finish_eq_ok (finished.symm.trans ok)
      · exact finished.trans (finish_eq_ok_of_accepts willing accepts)
  | failed cause => exact result
  | cancelled cause => exact absurd rfl (completed cause)

theorem execute_cancelled (prepared : r.IsPrepared c envelope) (start : Journal) {last i : Nat}
    (isLast : c.IsLast r.retry last) (positive : 1 ≤ i) (before : i < last)
    (cancelled : c.cancelled i = true)
    (going : ∀ k, 1 ≤ k → k < i → c.cancelled k = false) :
    HasTransmitted c r envelope i i start (execute c r start).2 ∧
      (execute c r start).1 = .error (.cancelled i) := by
  obtain ⟨causes, ending, course, done, k, result⟩ := execute_of_prepared prepared start
  by_cases stopped : ∃ cause, ending = .cancelled cause
  · obtain ⟨cause, rfl⟩ := stopped
    have here : c.cancelled (1 + causes.length) = true := course.stops.2.2
    -- Both pauses are the first one in which the exchange is cancelled.
    have same : 1 + causes.length = i := by
      rcases Nat.lt_trichotomy (1 + causes.length) i with early | same | late
      · rw [going _ (by omega) early] at here
        cases here
      · exact same
      · rw [course.uncancelled i positive late] at cancelled
        cases cancelled
    have pauses : (Ending.paused causes (.cancelled cause)).length = i := by
      rw [Ending.paused, List.length_append, List.length_singleton, Nat.add_comm, same]
    rw [pauses, same] at done
    rw [same] at result
    exact ⟨done, result⟩
  · -- A course that comes to its last attempt passes the given pause.
    have same := (course.isLast (not_exists.mp stopped)).unique isLast
    rw [course.uncancelled i positive (same ▸ before)] at cancelled
    cases cancelled

/-- An exchange makes as many transmissions as its last attempt says, or as many as there
are up to the first pause in which it is cancelled. -/
theorem execute_spends_budget (prepared : r.IsPrepared c envelope) (start : Journal) :
    ((∀ i, 1 ≤ i → i < c.lastAttempt r.retry → c.cancelled i = false) →
      HasTransmitted c r envelope (c.lastAttempt r.retry) (c.lastAttempt r.retry - 1) start
          (execute c r start).2 ∧
        FollowsFrom c r (c.lastAttempt r.retry) (execute c r start).1) ∧
    ∀ i, 1 ≤ i → i < c.lastAttempt r.retry → c.cancelled i = true →
      (∀ k, 1 ≤ k → k < i → c.cancelled k = false) →
      HasTransmitted c r envelope i i start (execute c r start).2 ∧
        (execute c r start).1 = .error (.cancelled i) := by
  have isLast := c.isLast_lastAttempt r.retry
  constructor
  · intro going
    exact execute_uncancelled prepared start isLast going
  · intro i positive before cancelled going
    exact execute_cancelled prepared start isLast positive before cancelled going

def samplePolicy : RetryPolicy :=
  { maxRetries := 5, interval := Span.ofSeconds 3, backoff := .fixed }

def sampleOutcome : Nat → Outcome
  | 1 => .failed (.unreachable "https://seller.test/as4" "connection refused")
  | 2 => .silent
  | _ => .answered .empty

theorem lastAttempt_sampleOutcome (cancelled : Nat → Bool) :
    (sampleCircumstances sampleOutcome cancelled).lastAttempt samplePolicy = 3 := by
  refine (Circumstances.isLast_lastAttempt _ _).unique ⟨by decide, by decide, ?_, .inr rfl⟩
  intro k started before
  have early : k = 1 ∨ k = 2 := by omega
  rcases early with rfl | rfl <;> rfl

def sampleAnswer : Answer :=
  { requestMessageId := Envelope.sampleOrder.messageId, attempts := 3, status := 200,
    envelope := none, verified := none }

/-- The order is sent three times, or twice if it is cancelled in the second pause. -/
theorem execute_spends_budget_sampleRequest :
    (HasTransmitted (sampleCircumstances sampleOutcome fun _ => false)
        (sampleRequest samplePolicy) Envelope.sampleSigned 3 2 default
        (execute (sampleCircumstances sampleOutcome fun _ => false) (sampleRequest samplePolicy)
          default).2 ∧
      (execute (sampleCircumstances sampleOutcome fun _ => false) (sampleRequest samplePolicy)
        default).1 = .ok sampleAnswer) ∧
      (execute (sampleCircumstances sampleOutcome (· == 2)) (sampleRequest samplePolicy)
        default).1 = .error (.cancelled 2) := by
  obtain ⟨completed, -⟩ := execute_spends_budget
    (sampleRequest_isPrepared sampleOutcome (fun _ => false) samplePolicy) default
  obtain ⟨-, stopped⟩ := execute_spends_budget
    (sampleRequest_isPrepared sampleOutcome (· == 2) samplePolicy) default
  have last (cancelled : Nat → Bool) :
      (sampleCircumstances sampleOutcome cancelled).lastAttempt (sampleRequest samplePolicy).retry
        = 3 := lastAttempt_sampleOutcome cancelled
  rw [last] at completed stopped
  obtain ⟨transmitted, -, delivered⟩ := completed fun _ _ _ => rfl
  refine ⟨⟨transmitted, ?_⟩, (stopped 2 (by decide) (by decide) rfl ?_).2⟩
  · exact delivered (fun _ _ _ => rfl) sampleAnswer ⟨none, none, by decide, rfl, rfl⟩
  · intro k started before
    have first : k = 1 := by omega
    rw [first]
    rfl

def hurriedPolicy : RetryPolicy :=
  { maxRetries := 4, interval := { nanos := 500000 }, backoff := .fixed }

def unreachable : Nat → Outcome := fun _ =>
  .failed (.unreachable "https://seller.test/as4" "connection refused")

/-- Pauses of half a millisecond last a whole one. -/
theorem elapsed_ne_sum_hurriedPolicy :
    (execute (sampleCircumstances unreachable fun _ => false) (sampleRequest hurriedPolicy)
        default).2.elapsed.nanos ≠
      (default : Journal).elapsed.nanos +
        ((List.range' 1 4).map fun retry => (hurriedPolicy.delay retry).nanos).sum := by
  have isLast : (sampleCircumstances unreachable fun _ => false).IsLast
      (sampleRequest hurriedPolicy).retry 5 :=
    ⟨by decide, by decide, fun _ _ _ => rfl, .inl rfl⟩
  obtain ⟨transmitted, -⟩ := execute_uncancelled
    (sampleRequest_isPrepared unreachable (fun _ => false) hurriedPolicy) default isLast
    fun _ _ _ => rfl
  rw [transmitted.elapsed]
  decide

end Exchange

end Ebms
