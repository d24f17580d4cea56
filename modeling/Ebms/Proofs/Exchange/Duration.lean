import Ebms.Exchange.Paced
import Ebms.Proofs.Exchange.RetryBudget

/-! # How long an exchange lasts

An exchange waits for answers, each time up to the limit of an attempt, and in the pauses
between attempts, each time up to the longest one of its retry policy, whatever the
multiplier of the policy is.  So it lasts at most as many limits as there are attempts and as
many longest pauses as there are retries.  Each wait counts as the clock makes it last at
most, which is up to the next whole millisecond. -/

set_option autoImplicit false

namespace Ebms

def RetryPolicy.longestDelay (policy : RetryPolicy) : Span :=
  match policy.backoff with
  | .fixed => policy.interval
  | .exponential _ longest => longest

/-- No multiplier makes a pause longer than the longest one. -/
theorem RetryPolicy.delay_le_longestDelay (policy : RetryPolicy) (retry : Nat) :
    (policy.delay retry).nanos ≤ policy.longestDelay.nanos := by
  unfold delay longestDelay
  cases policy.backoff with
  | fixed => exact Nat.le_refl _
  | exponential multiplier longest =>
      dsimp only
      cases Span.ofFloatSeconds? _ with
      | none => exact Nat.le_refl _
      | some wait =>
          show (wait.min longest).nanos ≤ longest.nanos
          unfold Span.min
          split
          · assumption
          · exact Nat.le_refl _

theorem Span.roundedUp_mono {short long : Span} (le : short.nanos ≤ long.nanos) :
    short.roundedUp.nanos ≤ long.roundedUp.nanos := by
  simp only [roundedUp]
  omega

/-- The most that the attempts and the pauses of an exchange last. -/
def Circumstances.budget (c : Circumstances) (retry : RetryPolicy) : Nat :=
  retry.maxAttempts * c.attemptLimit.roundedUp.nanos +
    retry.maxRetries.toNat * retry.longestDelay.roundedUp.nanos

namespace Exchange

variable {α β : Type} {x : Exchange α} {next : α → Exchange β} {bound more : Nat}

def Lasts (x : Exchange α) (bound : Nat) : Prop :=
  ∀ j, (x.runFrom j).2.elapsed.nanos ≤ j.elapsed.nanos + bound

theorem Lasts.mono (lasts : Lasts x bound) (le : bound ≤ more) : Lasts x more := by
  intro j
  exact (lasts j).trans (Nat.add_le_add_left le _)

theorem Lasts.of_keeps (keeps : Keeps x Journal.elapsed) : Lasts x 0 := by
  intro j
  rw [keeps j]
  exact Nat.le_refl _

theorem Lasts.bind (first : Lasts x bound) (second : ∀ value, Lasts (next value) more) :
    Lasts (x >>= next) (bound + more) := by
  intro j
  have reached := first j
  rw [← Nat.add_assoc]
  cases ran : x.runFrom j with
  | mk result k =>
      rw [ran] at reached
      cases result with
      | error error =>
          rw [runFrom_bind_of_error ran]
          exact reached.trans (Nat.le_add_right _ _)
      | ok value =>
          rw [runFrom_bind_of_ok ran]
          exact (second value k).trans (Nat.add_le_add_right reached more)

theorem lasts_wait (clock : Clock) (span : Span) :
    Lasts (wait clock span) span.roundedUp.nanos := by
  intro j
  exact Nat.add_le_add_left (clock.lasting_le _ _) _

/-! ## The steps of an exchange -/

variable {c : Circumstances} {pace : Nat → Option Span} {r : ExchangeRequest} {t : Transmission}

theorem nanos_after_paced (outcome : Outcome) (clock : Clock) (limit passed : Span)
    (pace : Option Span) :
    (clock.after passed (outcome.paced clock limit passed pace).2).nanos ≤
      passed.nanos + (clock.lasting passed limit).nanos := by
  unfold Outcome.paced
  split
  · exact Nat.le_refl _
  · exact Nat.le_add_right _ _
  · split
    next inTime => exact Nat.add_le_add_left inTime _
    next => exact Nat.le_refl _

theorem elapsed_attemptPaced (attempt : Nat) (j : Journal) :
    ((attemptPaced c pace t attempt).runFrom j).2.elapsed = c.clock.after j.elapsed
      ((c.outcome attempt).paced c.clock c.attemptLimit j.elapsed (pace attempt)).2 := by
  unfold attemptPaced enter count send
  rw [runFrom_modify_bind, runFrom_modify_bind, runFrom_modify_bind, runFrom_get_bind,
    runFrom_bind_of_ok (runFrom_forM_wait _ _ _), runFrom_pure]

theorem lasts_attemptPaced (attempt : Nat) :
    Lasts (attemptPaced c pace t attempt) c.attemptLimit.roundedUp.nanos := by
  intro j
  rw [elapsed_attemptPaced]
  exact (nanos_after_paced _ _ _ _ _).trans (Nat.add_le_add_left (c.clock.lasting_le _ _) _)

theorem lasts_pause (attempt : Nat) (cause : TransportError) :
    Lasts (pause c r attempt cause) r.retry.longestDelay.roundedUp.nanos := by
  intro j
  have longest := Span.roundedUp_mono (r.retry.delay_le_longestDelay attempt)
  rw [runFrom_pause]
  exact (lasts_wait c.clock (r.retry.delay attempt)).mono longest j

theorem lasts_transmitPacedFrom (first left : Nat) :
    Lasts (transmitPacedFrom c pace r t first left)
      ((left + 1) * c.attemptLimit.roundedUp.nanos + left * r.retry.longestDelay.roundedUp.nanos) := by
  induction left generalizing first with
  | zero =>
      rw [Nat.zero_add, Nat.one_mul, Nat.zero_mul]
      refine Lasts.bind (lasts_attemptPaced first) fun received => Lasts.of_keeps ?_
      cases received with
      | ok response => exact Keeps.pure _
      | error cause => exact Keeps.throw _
  | succ left inductionHypothesis =>
      -- One more attempt takes its limit, and the pause behind it the longest one.
      have sum : (left + 1 + 1) * c.attemptLimit.roundedUp.nanos +
          (left + 1) * r.retry.longestDelay.roundedUp.nanos = c.attemptLimit.roundedUp.nanos +
            (r.retry.longestDelay.roundedUp.nanos + ((left + 1) * c.attemptLimit.roundedUp.nanos +
              left * r.retry.longestDelay.roundedUp.nanos)) := by
        ring
      rw [sum]
      refine Lasts.bind (lasts_attemptPaced first) fun received => ?_
      cases received with
      | ok response => exact (Lasts.of_keeps (Keeps.pure _)).mono (Nat.zero_le _)
      | error cause =>
          by_cases passing : cause.isRetriable = true
          · simp only [if_pos passing]
            exact Lasts.bind (lasts_pause first cause) fun _ => inductionHypothesis (first + 1)
          · simp only [if_neg passing]
            exact (Lasts.of_keeps (Keeps.throw _)).mono (Nat.zero_le _)

theorem lasts_runPaced : Lasts (runPaced c pace r) (c.budget r.retry) := by
  have attempts := r.retry.one_le_maxAttempts
  have retries : r.retry.maxAttempts - 1 ≤ r.retry.maxRetries.toNat := by
    rw [RetryPolicy.maxAttempts_eq]
    omega
  have prepares : Lasts (prepare c r) 0 :=
    Lasts.of_keeps (keeps_preparing (fun _ _ => rfl) (fun _ _ _ => rfl) (fun _ => rfl)
      fun _ _ => rfl)
  have finishes (wire : WireMessage) (answered : Nat × Response) :
      Lasts (finish c r wire answered) 0 :=
    Lasts.of_keeps (keeps_finishing (fun _ _ => rfl) (fun _ _ => rfl) (fun _ _ => rfl)
      (fun _ _ _ _ => rfl) answered)
  refine Lasts.mono (Lasts.bind prepares fun wire => Lasts.bind (lasts_transmitPacedFrom 1 _)
    fun answered => finishes wire answered) ?_
  rw [Nat.sub_add_cancel attempts, Nat.zero_add, Nat.add_zero]
  exact Nat.add_le_add_left (Nat.mul_le_mul_right _ retries) _

/-! ## The exchange -/

theorem elapsed_executePaced_le (c : Circumstances) (pace : Nat → Option Span)
    (r : ExchangeRequest) (start : Journal) :
    (executePaced c pace r start).2.elapsed.nanos ≤ start.elapsed.nanos + c.budget r.retry :=
  lasts_runPaced start

/-! ## Answers that come at once -/

theorem attemptPaced_none (c : Circumstances) (t : Transmission) (attempt : Nat) :
    attemptPaced c (fun _ => none) t attempt = attemptOnce c t attempt := by
  unfold attemptPaced attemptOnce
  cases c.outcome attempt <;> rfl

theorem transmitPacedFrom_none (c : Circumstances) (r : ExchangeRequest) (t : Transmission)
    (first left : Nat) :
    transmitPacedFrom c (fun _ => none) r t first left = transmitFrom c r t first left := by
  induction left generalizing first with
  | zero =>
      rw [transmitPacedFrom, attemptPaced_none]
      rfl
  | succ left inductionHypothesis =>
      simp only [transmitPacedFrom, attemptPaced_none, inductionHypothesis]
      rfl

theorem executePaced_none (c : Circumstances) (r : ExchangeRequest) (start : Journal) :
    executePaced c (fun _ => none) r start = execute c r start := by
  simp only [executePaced, execute, runPaced, run, transmit, transmitPacedFrom_none]

/-- An exchange stays within its budget, however long its answers take and whatever the
multiplier of its pauses is; and no pause is meant to be longer than the longest one. -/
theorem execute_staysWithin (c : Circumstances) (r : ExchangeRequest) (start : Journal) :
    (execute c r start).2.elapsed.nanos ≤ start.elapsed.nanos + c.budget r.retry ∧
      (∀ pace, (executePaced c pace r start).2.elapsed.nanos ≤
        start.elapsed.nanos + c.budget r.retry) ∧
      ∀ retry, (r.retry.delay retry).nanos ≤ r.retry.longestDelay.nanos := by
  refine ⟨?_, fun pace => elapsed_executePaced_le c pace r start,
    r.retry.delay_le_longestDelay⟩
  rw [← executePaced_none]
  exact elapsed_executePaced_le c _ r start

/-! ## A sample exchange -/

def silence (limit : Span) : Circumstances :=
  { sampleCircumstances (fun _ => .silent) fun _ => false with attemptLimit := limit }

/-- Pauses of half a millisecond last a whole one. -/
theorem lt_elapsed_silence :
    hurriedPolicy.maxAttempts * (Span.ofSeconds 30).nanos +
        hurriedPolicy.maxRetries.toNat * hurriedPolicy.longestDelay.nanos <
      (execute (silence (Span.ofSeconds 30)) (sampleRequest hurriedPolicy)
        default).2.elapsed.nanos := by
  have isLast : (silence (Span.ofSeconds 30)).IsLast (sampleRequest hurriedPolicy).retry 5 :=
    ⟨by decide, by decide, fun _ _ _ => rfl, .inl rfl⟩
  have sample := sampleRequest_isPrepared (fun _ => .silent) (fun _ => false) hurriedPolicy
  have prepared : (sampleRequest hurriedPolicy).IsPrepared (silence (Span.ofSeconds 30))
      Envelope.sampleSigned := ⟨sample.built, sample.signed, sample.unsigned⟩
  obtain ⟨transmitted, -⟩ := execute_uncancelled prepared default isLast fun _ _ _ => rfl
  rw [transmitted.elapsed]
  decide

end Exchange

end Ebms
