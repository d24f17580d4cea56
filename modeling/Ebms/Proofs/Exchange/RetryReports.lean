import Ebms.Proofs.Exchange.RetryBudget

/-! # Reports of retries

A failed attempt that may be repeated is reported as a retry, to the observer and to the
counter, before the pause.  Only after the pause it shows whether the exchange has been
cancelled in between.  So the last report of a cancelled exchange is of a retry that does not
take place; every other report is true, and those of any other exchange all are. -/

set_option autoImplicit false

namespace Ebms

namespace Journal

def total (j : Journal) (metric : Metric) : Nat := j.counts.countP fun c => c.metric = metric

def increment (start finish : Journal) (metric : Metric) : Int :=
  finish.total metric - start.total metric

def tally (j : Journal) : Nat × Nat := (j.total .transmitAttempts, j.total .retries)

end Journal

namespace Exchange

/-- From one journal to another, each retry that is reported is followed by the transmission
it announces, and if anything is transmitted, one more attempt is counted than retries. -/
structure ReportsTruly (start finish : Journal) : Prop where
  followed : ∃ sent reports, finish.sent = start.sent ++ sent ∧
    finish.retries = start.retries ++ reports ∧
      ∀ attempt cause, .retry attempt cause ∈ reports → attempt + 1 ≤ sent.length
  balanced : finish.sent ≠ start.sent →
    start.increment finish .transmitAttempts = start.increment finish .retries + 1

/-- From one journal to another, `attempts` transmissions are made, and as many retries are
counted: none but the last one that is reported can fail to follow. -/
structure ReportsUntil (attempts : Nat) (start finish : Journal) : Prop where
  followed : ∃ sent reports, finish.sent = start.sent ++ sent ∧ sent.length = attempts ∧
    finish.retries = start.retries ++ reports ∧
      ∀ attempt cause, .retry attempt cause ∈ reports → attempt ≤ attempts
  attempted : start.increment finish .transmitAttempts = attempts
  retried : start.increment finish .retries = attempts

end Exchange

def ExchangeRequest.IsUncancelled (c : Circumstances) (r : ExchangeRequest) : Prop :=
  ∀ envelope, r.IsPrepared c envelope →
    ∀ i, 1 ≤ i → i < c.lastAttempt r.retry → c.cancelled i = false

/-! ## What is counted -/

namespace Journal

theorem tally_append (j : Journal) (counts : List Count) :
    { j with counts := j.counts ++ counts }.tally =
      (j.total .transmitAttempts + counts.countP fun c => c.metric = .transmitAttempts,
        j.total .retries + counts.countP fun c => c.metric = .retries) := by
  simp [tally, total, List.countP_append]

theorem tally_append_of_other (j : Journal) {counts : List Count}
    (other : ∀ c ∈ counts, c.metric ≠ .transmitAttempts ∧ c.metric ≠ .retries) :
    { j with counts := j.counts ++ counts }.tally = j.tally := by
  have attempts : counts.countP (fun c => c.metric = .transmitAttempts) = 0 :=
    List.countP_eq_zero.mpr fun c member => by simpa using (other c member).1
  have retries : counts.countP (fun c => c.metric = .retries) = 0 :=
    List.countP_eq_zero.mpr fun c member => by simpa using (other c member).2
  rw [tally_append, attempts, retries]
  rfl

variable {c : Circumstances} {r : ExchangeRequest} {t : Transmission} {ending : Ending}

theorem tally_attempted (attempt : Nat) (j : Journal) :
    (j.attempted c t attempt).tally = (j.tally.1 + 1, j.tally.2) :=
  tally_append j [.of .transmitAttempts]

theorem tally_paused (attempt : Nat) (cause : TransportError) (j : Journal) :
    (j.paused c r attempt cause).tally = (j.tally.1, j.tally.2 + 1) :=
  tally_append j [.of .retries]

theorem tally_transmitted (first : Nat) (causes : List TransportError) (j : Journal) :
    (j.transmitted c r t ending first causes).tally =
      (j.tally.1 + (1 + causes.length), j.tally.2 + (ending.paused causes).length) := by
  induction causes generalizing first j with
  | nil =>
      cases ending with
      | answered response => exact tally_attempted first j
      | failed cause => exact tally_attempted first j
      | cancelled cause =>
          rw [transmitted, tally_paused, tally_attempted]
          rfl
  | cons cause causes inductionHypothesis =>
      rw [transmitted, inductionHypothesis, tally_paused, tally_attempted, Ending.paused_cons,
        List.length_cons, List.length_cons, Prod.mk.injEq]
      omega

end Journal

namespace Exchange

variable {c : Circumstances} {r : ExchangeRequest} {wire : WireMessage} {envelope : Envelope}

theorem keeps_prepare_tally : Keeps (prepare c r) Journal.tally :=
  keeps_preparing (fun _ _ => rfl) (fun _ _ _ => rfl)
    (fun j => j.tally_append_of_other (by simp [Count.of])) (fun _ _ => rfl)

theorem keeps_finish_tally (answered : Nat × Response) :
    Keeps (finish c r wire answered) Journal.tally :=
  keeps_finishing (fun _ _ => rfl) (fun _ _ => rfl)
    (fun j _ => j.tally_append_of_other (by simp [Count.ofResult])) (fun _ _ _ _ => rfl) answered

theorem tally_conclude (result : Except ExchangeError Answer) (j : Journal) :
    (conclude result j).tally = j.tally :=
  j.tally_append_of_other (by simp [Count.of, Count.ofResult])

/-! ## What is reported -/

structure Reports (r : ExchangeRequest) (causes : List TransportError) (ending : Ending)
    (start finish : Journal) : Prop where
  sent : ∃ t, finish.sent = start.sent ++ List.replicate (1 + causes.length) t
  told : finish.retries =
    start.retries ++ r.observers.told (retryNotices 1 (ending.paused causes))
  attempts : start.increment finish .transmitAttempts = (1 + causes.length : Nat)
  retries : start.increment finish .retries = ((ending.paused causes).length : Nat)

theorem increment_of_tally {start finish : Journal} {attempts retries : Nat}
    (tally : finish.tally = (start.tally.1 + attempts, start.tally.2 + retries)) :
    start.increment finish .transmitAttempts = attempts ∧
      start.increment finish .retries = retries := by
  obtain ⟨first, second⟩ := Prod.mk.inj tally
  unfold Journal.increment
  dsimp only [Journal.tally] at first second
  omega

theorem reports_execute (prepared : r.IsPrepared c envelope) (start : Journal) :
    ∃ causes ending, c.Course 1 (r.retry.maxAttempts - 1) causes ending ∧
      Reports r causes ending start (execute c r start).2 ∧
        ∀ cause, ending = .cancelled cause →
          (execute c r start).1 = .error (.cancelled (1 + causes.length)) := by
  obtain ⟨causes, ending, k, course, made, ran⟩ := runFrom_run prepared start
  have prepares := keeps_prepare (c := c) (r := r) start
  have tallied := keeps_prepare_tally (c := c) (r := r) start
  rw [made] at prepares tallied
  have before := Journal.transmissions_of_afterPreparing prepares
  have recorded := view_execute keeps_finish (fun _ _ => rfl) ran
  have counted := view_execute keeps_finish_tally tally_conclude ran
  simp only [Journal.transmissions, Prod.mk.injEq] at before recorded
  rw [Journal.tally_transmitted, tallied] at counted
  obtain ⟨attempts, retries⟩ := increment_of_tally counted
  refine ⟨causes, ending, course,
    ⟨⟨transmissionOf r (envelope.encode c.boundary), ?_⟩, ?_, attempts, retries⟩, ?_⟩
  · rw [recorded.1, Journal.sent_transmitted, before.1, Nat.add_comm]
  · rw [recorded.2.2, retries_transmitted, before.2.2]
  · rintro cause rfl
    rw [execute_eq, ran]
    rfl

theorem transmissions_of_not_prepared (unprepared : ∀ envelope, ¬ r.IsPrepared c envelope)
    (start : Journal) : (execute c r start).2.transmissions = start.transmissions := by
  have course := runsTo_run c r start
  have prepares := Journal.transmissions_of_afterPreparing (keeps_prepare (c := c) (r := r) start)
  rw [execute_eq]
  generalize (run c r).runFrom start = ran at course ⊢
  cases course with
  | unprepared _ making =>
      rw [making] at prepares
      exact prepares
  | unanswered prepared => exact absurd prepared (unprepared _)
  | answered prepared => exact absurd prepared (unprepared _)

section Reports

variable {causes : List TransportError} {ending : Ending} {start finish : Journal}

theorem attempt_of_mem_told {attempt : Nat} {cause : TransportError}
    (told : .retry attempt cause ∈ r.observers.told (retryNotices 1 causes)) :
    attempt ≤ causes.length := by
  obtain ⟨-, before⟩ := attempt_of_mem_retryNotices (List.mem_filter.mp told).1
  omega

theorem Reports.truly (reports : Reports r causes ending start finish)
    (completed : ∀ cause, ending ≠ .cancelled cause) : ReportsTruly start finish := by
  obtain ⟨⟨t, sent⟩, told, attempts, retries⟩ := reports
  rw [Ending.paused_of_completed completed] at told retries
  refine ⟨⟨_, _, sent, told, fun attempt cause member => ?_⟩, fun _ => ?_⟩
  · have before := attempt_of_mem_told member
    rw [List.length_replicate]
    omega
  · rw [attempts, retries]
    omega

theorem Reports.not_truly {cause : TransportError}
    (reports : Reports r causes (.cancelled cause) start finish) : ¬ ReportsTruly start finish := by
  obtain ⟨⟨t, sent⟩, told, attempts, retries⟩ := reports
  intro truly
  have transmits : finish.sent ≠ start.sent := by
    rw [sent, Nat.add_comm]
    simp [List.replicate_succ]
  have balanced := truly.balanced transmits
  rw [attempts, retries, Ending.paused, List.length_append, List.length_singleton] at balanced
  omega

theorem Reports.untilCancelled {cause : TransportError}
    (reports : Reports r causes (.cancelled cause) start finish) :
    ReportsUntil (1 + causes.length) start finish := by
  obtain ⟨⟨t, sent⟩, told, attempts, retries⟩ := reports
  have pauses : (Ending.paused causes (.cancelled cause)).length = 1 + causes.length := by
    rw [Ending.paused, List.length_append, List.length_singleton, Nat.add_comm]
  refine ⟨⟨_, _, sent, List.length_replicate, told, fun attempt cause member => ?_⟩, attempts, ?_⟩
  · exact (attempt_of_mem_told member).trans_eq pauses
  · rw [retries, pauses]

end Reports

theorem completed_iff {retry : RetryPolicy} {causes : List TransportError} {ending : Ending}
    (course : c.Course 1 (retry.maxAttempts - 1) causes ending) :
    (∀ cause, ending ≠ .cancelled cause) ↔
      ∀ i, 1 ≤ i → i < c.lastAttempt retry → c.cancelled i = false := by
  have isLast := c.isLast_lastAttempt retry
  constructor
  · intro completed i positive before
    have same := (course.isLast completed).unique isLast
    exact course.uncancelled i positive (same ▸ before)
  · rintro going cause rfl
    have here := going _ (by omega) (course.cancelled_before_last isLast)
    rw [course.stops.2.2] at here
    cases here

/-- The reports of an exchange are true exactly if it is not cancelled in a pause.  If it is,
the report of the attempt before that pause is the only one that is not. -/
theorem reportsTruly_iff (c : Circumstances) (r : ExchangeRequest) (start : Journal) :
    (ReportsTruly start (execute c r start).2 ↔ r.IsUncancelled c) ∧
      (¬ r.IsUncancelled c → ∃ attempts, c.cancelled attempts = true ∧
        (execute c r start).1 = .error (.cancelled attempts) ∧
        ReportsUntil attempts start (execute c r start).2) := by
  by_cases prepares : ∃ envelope, r.IsPrepared c envelope
  · obtain ⟨envelope, prepared⟩ := prepares
    obtain ⟨causes, ending, course, reports, cancelled⟩ := reports_execute prepared start
    have uncancelled : r.IsUncancelled c ↔ ∀ cause, ending ≠ .cancelled cause :=
      ⟨fun going => (completed_iff course).mpr (going envelope prepared),
        fun completed _ _ => (completed_iff course).mp completed⟩
    by_cases stopped : ∃ cause, ending = .cancelled cause
    · obtain ⟨cause, rfl⟩ := stopped
      refine ⟨iff_of_false reports.not_truly fun going => ?_, fun _ => ?_⟩
      · exact uncancelled.mp going cause rfl
      · exact ⟨_, course.stops.2.2, cancelled cause rfl, reports.untilCancelled⟩
    · have going := uncancelled.mpr (not_exists.mp stopped)
      exact ⟨iff_of_true (reports.truly (not_exists.mp stopped)) going, fun not => absurd going not⟩
  · -- Without a message there is nothing to transmit, and no pause to be cancelled in.
    have recorded := transmissions_of_not_prepared (not_exists.mp prepares) start
    simp only [Journal.transmissions, Prod.mk.injEq] at recorded
    have truly : ReportsTruly start (execute c r start).2 :=
      { followed := ⟨[], [], by simp [recorded], by simp [recorded], by simp⟩
        balanced := fun transmits => absurd recorded.1 transmits }
    have going : r.IsUncancelled c := fun envelope prepared => absurd ⟨envelope, prepared⟩ prepares
    exact ⟨iff_of_true truly going, fun not => absurd going not⟩

/-! ## A sample exchange -/

def watchful : Observers := { watches := fun _ => true, reply := fun _ => .ok () }

def sampleStopped : Except ExchangeError Answer × Journal :=
  execute (sampleCircumstances unreachable (· == 1))
    { sampleRequest samplePolicy with sign := false, observers := watchful } default

/-- The order is transmitted once, but a retry is reported and counted. -/
theorem not_reportsTruly_sampleStopped :
    sampleStopped.1 = .error (.cancelled 1) ∧ sampleStopped.2.sent.length = 1 ∧
      sampleStopped.2.retries =
        [.retry 1 (.unreachable "https://seller.test/as4" "connection refused")] ∧
      sampleStopped.2.total .transmitAttempts = 1 ∧ sampleStopped.2.total .retries = 1 ∧
      ¬ ReportsTruly default sampleStopped.2 := by
  have once : sampleStopped.2.sent.length = 1 := rfl
  have told : sampleStopped.2.retries =
      [.retry 1 (.unreachable "https://seller.test/as4" "connection refused")] := rfl
  refine ⟨rfl, once, told, rfl, rfl, fun truly => ?_⟩
  obtain ⟨sent, reports, transmitted, reported, followed⟩ := truly.followed
  obtain rfl : sampleStopped.2.sent = sent := transmitted
  obtain rfl : sampleStopped.2.retries = reports := reported
  have twice := followed _ _ (told ▸ List.mem_singleton_self _)
  omega

end Exchange

end Ebms
