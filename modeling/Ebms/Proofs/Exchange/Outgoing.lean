import Ebms.Proofs.Exchange.Acceptance
import Ebms.Proofs.Exchange.Retained

/-! # What goes out

Everything that an exchange sends is one encoding of one message, however often it is
sent: the message that was asked for, or the same message signed.  Whoever watches what
goes out is shown these bytes.  Where the bytes are kept in between, and for how many of
them a spool file is made, shows nowhere. -/

set_option autoImplicit false

namespace Ebms

def Journal.dumps (j : Journal) : List Notice :=
  j.notices.filter fun notice => notice.slot == .outgoing

theorem Journal.dumps_of_deliveries {j k : Journal} (same : k.deliveries = j.deliveries) :
    k.dumps = j.dumps := by
  have dumps (j : Journal) :
      j.dumps = j.deliveries.filter fun notice => notice.slot == .outgoing := by
    rw [deliveries, List.filter_filter, Journal.dumps]
    exact List.filter_congr fun notice _ => by cases notice.slot <;> rfl
  rw [dumps, dumps, same]

def Journal.withResources (j : Journal) (held : Holding × List Nat) : Journal :=
  { j with held := held.1, spooledAtRetries := held.2 }

namespace Exchange

/-! ## The bytes -/

/-- All that has gone out since `start`, and all that was shown of it, is one message. -/
structure GoesOut (c : Circumstances) (r : ExchangeRequest) (envelope : Envelope)
    (attempts dumps : Nat) (start finish : Journal) : Prop where
  sent : finish.sent = start.sent ++
    List.replicate attempts (transmissionOf r (envelope.encode c.boundary))
  shown : finish.dumps = start.dumps ++ List.replicate dumps
    (.outgoing r.envelope.messageId (envelope.encode c.boundary).contentType
      (envelope.encode c.boundary).body)

variable {c : Circumstances} {r : ExchangeRequest} {envelope : Envelope} {wire : WireMessage}
  {response : Response} {answer : Answer} {attempts : Nat}

theorem keeps_dumps {o : Observers} {notice : Notice} (other : notice.slot ≠ .outgoing) :
    Keeps (observe o notice) Journal.dumps := by
  apply Keeps.observe
  intro j
  simp [Journal.dumps, List.filter_append, other]

theorem dumps_deliver (r : ExchangeRequest) (wire : WireMessage) (response : Response)
    (answer : Answer) (j : Journal) :
    ((deliver r wire response answer).runFrom j).2.dumps = j.dumps ++
      r.observers.told [.outgoing answer.requestMessageId wire.contentType wire.body] := by
  have first : ((deliver r wire response answer).runFrom j).2.dumps =
      ((observe r.observers (.outgoing answer.requestMessageId wire.contentType
        wire.body)).runFrom j).2.dumps := by
    unfold deliver
    refine Keeps.runFrom_bind (fun _ => ?_) j
    refine Keeps.bind (keeps_dumps (by simp [Notice.slot])) fun _ => ?_
    refine Keeps.bind (keeps_dumps (by simp [Notice.slot])) fun _ => ?_
    split
    · exact keeps_dumps (by simp [Notice.slot])
    · exact Keeps.pure _
  rw [first, runFrom_observe, Journal.dumps, List.filter_append, ← Journal.dumps,
    Observers.told_singleton]
  split <;> rfl

theorem GoesOut.nothing {start finish : Journal} (sent : finish.sent = start.sent)
    (dumps : finish.dumps = start.dumps) : GoesOut c r envelope 0 0 start finish where
  sent := by rw [sent, List.replicate_zero, List.append_nil]
  shown := by rw [dumps, List.replicate_zero, List.append_nil]

theorem GoesOut.trans {start middle finish : Journal} {later dumps laterDumps : Nat}
    (first : GoesOut c r envelope attempts dumps start middle)
    (second : GoesOut c r envelope later laterDumps middle finish) :
    GoesOut c r envelope (attempts + later) (dumps + laterDumps) start finish where
  sent := by rw [second.sent, first.sent, List.append_assoc, List.replicate_append_replicate]
  shown := by rw [second.shown, first.shown, List.append_assoc, List.replicate_append_replicate]

theorem goesOut_prepare (envelope : Envelope) (j : Journal) :
    GoesOut c r envelope 0 0 j ((prepare c r).runFrom j).2 := by
  have kept := keeps_prepare (c := c) (r := r) j
  exact .nothing (congrArg Prod.fst kept)
    (Journal.dumps_of_deliveries (deliveries_of_afterPreparing kept))

theorem exists_goesOut_transmit (envelope : Envelope) (j : Journal) :
    ∃ attempts, GoesOut c r envelope (attempts + 1) 0 j
      ((transmit c r (envelope.encode c.boundary)).runFrom j).2 := by
  obtain ⟨causes, ending, -, ran⟩ := transmitFrom_course (c := c) (r := r)
    (t := transmissionOf r (envelope.encode c.boundary)) 1 (r.retry.maxAttempts - 1) j
  have dumps := Journal.dumps_of_deliveries (keeps_transmit (c := c) (r := r)
    (envelope.encode c.boundary) j)
  refine ⟨causes.length, ?_, ?_⟩
  · rw [transmit, ran, Journal.sent_transmitted]
  · rw [dumps, List.replicate_zero, List.append_nil]

theorem exists_goesOut_finish (answered : Nat × Response) (envelope : Envelope) (j : Journal) :
    ∃ dumps, GoesOut c r envelope 0 dumps j
        ((finish c r (envelope.encode c.boundary) answered).runFrom j).2 ∧
      ∀ answer, ((finish c r (envelope.encode c.boundary) answered).runFrom j).1 = .ok answer →
        dumps = (r.observers.watches .outgoing).toNat := by
  obtain ⟨attempts, response⟩ := answered
  have sent : ((finish c r (envelope.encode c.boundary) (attempts, response)).runFrom j).2.sent =
      j.sent := congrArg Prod.fst (keeps_finish (attempts, response) j)
  by_cases acceptable : ∃ answer, r.Accepts c attempts response answer
  · obtain ⟨answer, accepts⟩ := acceptable
    obtain ⟨k, step, same, -⟩ := finish_of_accepts (envelope.encode c.boundary) j accepts
    obtain ⟨received, verified, -, -, rfl⟩ := accepts
    refine ⟨(r.observers.watches .outgoing).toNat, ⟨?_, ?_⟩, fun _ _ => rfl⟩
    · rw [List.replicate_zero, List.append_nil]
      exact sent
    · rw [step]
      refine (Keeps.runFrom_bind (fun _ => Keeps.pure _) k).trans ?_
      rw [dumps_deliver, Journal.dumps, same, ← Journal.dumps, Observers.told_singleton]
      cases watched : r.observers.watches .outgoing <;> simp [Notice.slot, watched]
  · obtain ⟨error, k, failed, same⟩ := finish_of_not_accepts c r (envelope.encode c.boundary)
      attempts response j (not_exists.mp acceptable)
    refine ⟨0, .nothing sent ?_, fun answer done => ?_⟩
    · rw [failed, Journal.dumps, same, Journal.dumps]
    · rw [failed] at done
      cases done

theorem exists_goesOut_run (c : Circumstances) (r : ExchangeRequest) (start : Journal) :
    ∃ envelope attempts dumps,
      GoesOut c r envelope attempts dumps start ((run c r).runFrom start).2 ∧
        (0 < attempts → r.IsPrepared c envelope) ∧
        ((∃ envelope, r.IsPrepared c envelope) → 0 < attempts) ∧
        (0 < dumps → 0 < attempts) ∧
        ∀ answer, ((run c r).runFrom start).1 = .ok answer →
          dumps = (r.observers.watches .outgoing).toNat := by
  have course := runsTo_run c r start
  generalize (run c r).runFrom start = ran at course ⊢
  cases course with
  | unprepared unprepared making =>
      have prepares := goesOut_prepare (c := c) (r := r) r.envelope start
      rw [making] at prepares
      refine ⟨r.envelope, 0, 0, prepares, ?_, ?_, ?_, ?_⟩
      · intro positive
        cases positive
      · rintro ⟨envelope, prepared⟩
        exact absurd prepared (unprepared envelope)
      · intro positive
        cases positive
      · intro answer done
        cases done
  | @unanswered envelope error j k prepared making sending =>
      have prepares := goesOut_prepare (c := c) (r := r) envelope start
      obtain ⟨attempts, transmits⟩ := exists_goesOut_transmit (c := c) (r := r) envelope j
      rw [making] at prepares
      rw [sending] at transmits
      refine ⟨envelope, _, _, prepares.trans transmits, fun _ => prepared, fun _ => ?_, ?_, ?_⟩
      · omega
      · intro positive
        cases positive
      · intro answer done
        cases done
  | @answered envelope answered j k prepared making sending =>
      have prepares := goesOut_prepare (c := c) (r := r) envelope start
      obtain ⟨attempts, transmits⟩ := exists_goesOut_transmit (c := c) (r := r) envelope j
      obtain ⟨dumps, finishes, shown⟩ :=
        exists_goesOut_finish (c := c) (r := r) answered envelope k
      rw [making] at prepares
      rw [sending] at transmits
      refine ⟨envelope, _, _, (prepares.trans transmits).trans finishes, fun _ => prepared,
        fun _ => ?_, fun _ => ?_, ?_⟩
      · omega
      · omega
      · rw [Nat.add_zero, Nat.zero_add]
        exact shown

/-! ## What does not show -/

/-- Steps for which it does not matter what resources are held: nothing else that they
leave behind depends on these. -/
def IgnoresResources {α : Type} (x : Exchange α) : Prop :=
  ∀ j held, ∃ left,
    x.runFrom (j.withResources held) = ((x.runFrom j).1, (x.runFrom j).2.withResources left)

namespace IgnoresResources

variable {α β : Type} {x : Exchange α} {next : α → Exchange β}

theorem pure (value : α) : IgnoresResources (Pure.pure value) :=
  fun _ held => ⟨held, rfl⟩

theorem throw (error : ExchangeError) : IgnoresResources (throw error : Exchange α) :=
  fun _ held => ⟨held, rfl⟩

theorem modify {change : Journal → Journal}
    (same : ∀ j held, ∃ left, change (j.withResources held) = (change j).withResources left) :
    IgnoresResources (modify change : Exchange Unit) := by
  intro j held
  obtain ⟨left, changed⟩ := same j held
  exact ⟨left, congrArg (Prod.mk (Except.ok ())) changed⟩

theorem bind (first : IgnoresResources x) (second : ∀ value, IgnoresResources (next value)) :
    IgnoresResources (x >>= next) := by
  intro j held
  obtain ⟨between, started⟩ := first j held
  cases ran : x.runFrom j with
  | mk result k =>
      rw [ran] at started
      cases result with
      | error error =>
          rw [runFrom_bind_of_error started, runFrom_bind_of_error ran]
          exact ⟨between, rfl⟩
      | ok value =>
          rw [runFrom_bind_of_ok started, runFrom_bind_of_ok ran]
          exact second value k between

theorem orFail (result : Except ExchangeError α) : IgnoresResources (orFail result) := by
  intro j held
  rw [runFrom_orFail, runFrom_orFail]
  exact ⟨held, rfl⟩

theorem observe (o : Observers) (notice : Notice) : IgnoresResources (observe o notice) := by
  intro j held
  rw [runFrom_observe, runFrom_observe]
  exact ⟨held, rfl⟩

theorem attemptOnce (t : Transmission) (attempt : Nat) :
    IgnoresResources (attemptOnce c t attempt) := by
  intro j held
  rw [runFrom_attemptOnce, runFrom_attemptOnce]
  exact ⟨held, rfl⟩

theorem pause (attempt : Nat) (cause : TransportError) :
    IgnoresResources (pause c r attempt cause) := by
  intro j held
  rw [runFrom_pause, runFrom_pause]
  exact ⟨(held.1, held.2 ++ [held.1.tracker.outstandingSpooled]), rfl⟩

theorem transmitFrom (t : Transmission) (first left : Nat) :
    IgnoresResources (transmitFrom c r t first left) := by
  induction left generalizing first with
  | zero =>
      refine bind (attemptOnce t first) fun received => ?_
      cases received with
      | ok response => exact pure _
      | error cause => exact throw _
  | succ left inductionHypothesis =>
      refine bind (attemptOnce t first) fun received => ?_
      cases received with
      | ok response => exact pure _
      | error cause =>
          by_cases passing : cause.isRetriable = true
          · simp only [if_pos passing]
            exact bind (pause first cause) fun _ => inductionHypothesis (first + 1)
          · simp only [if_neg passing]
            exact throw _

theorem signed : IgnoresResources (signed c r) := by
  unfold Exchange.signed
  split
  · split
    · exact throw _
    · split
      · exact throw _
      · refine bind (modify fun _ held => ⟨held, rfl⟩) fun _ => ?_
        exact bind (observe _ _) fun _ => pure _
  · exact pure _

/-- The handle of a retained body depends on the resources, but nobody makes use of it. -/
theorem retain_bind (body : Bytes) {later : Exchange β} (ignores : IgnoresResources later) :
    IgnoresResources (retain .working body >>= fun _ => later) := by
  intro j held
  rw [runFrom_bind_of_ok (runFrom_retain_working _ _),
    runFrom_bind_of_ok (runFrom_retain_working _ _)]
  exact ignores (j.retained body) (held.1.retain body, held.2)

theorem enter (phase : Phase) : IgnoresResources (enter phase) :=
  modify fun _ held => ⟨held, rfl⟩

theorem prepare : IgnoresResources (prepare c r) := by
  refine bind (enter _) fun _ => ?_
  refine bind (observe _ _) fun _ => ?_
  refine bind (enter _) fun _ => ?_
  refine bind signed fun envelope => ?_
  exact retain_bind _ (pure _)

theorem accept (attempts : Nat) (response : Response) :
    IgnoresResources (accept c r attempts response) := by
  unfold Exchange.accept
  refine bind (orFail _) fun received => ?_
  refine bind ?_ fun _ => bind (orFail _) fun verified => pure _
  unfold countVerification
  split
  · exact modify fun _ held => ⟨held, rfl⟩
  · exact pure _

theorem deliver (wire : WireMessage) (response : Response) (answer : Answer) :
    IgnoresResources (deliver r wire response answer) := by
  unfold Exchange.deliver
  refine bind (observe _ _) fun _ => ?_
  refine bind (observe _ _) fun _ => ?_
  refine bind (observe _ _) fun _ => ?_
  split
  · exact observe _ _
  · exact pure _

theorem finish (wire : WireMessage) (answered : Nat × Response) :
    IgnoresResources (finish c r wire answered) := by
  refine bind (enter _) fun _ => ?_
  refine retain_bind _ ?_
  refine bind (accept _ _) fun answer => ?_
  refine bind (enter _) fun _ => ?_
  exact bind (deliver _ _ _) fun _ => pure _

theorem run : IgnoresResources (run c r) :=
  bind prepare fun _ => bind (transmitFrom _ _ _) fun _ => finish _ _

end IgnoresResources

theorem execute_withResources (c : Circumstances) (r : ExchangeRequest) (start : Journal)
    (held : Holding × List Nat) :
    ∃ left, execute c r (start.withResources held) =
      ((execute c r start).1, (execute c r start).2.withResources left) := by
  obtain ⟨left, ran⟩ := IgnoresResources.run (c := c) (r := r) start held
  rw [execute_eq, ran]
  exact ⟨left, rfl⟩

/-! ## The exchange -/

theorem not_isPrepared_of_unsignable (sign : r.sign = true)
    (unsignable : ∀ credentials, r.credentials = some credentials →
      ∃ error, r.envelope.sign c.suite credentials c.timeToLive c.signedAt = .error error) :
    ¬ r.IsPrepared c envelope := by
  intro prepared
  obtain ⟨credentials, present, made, -⟩ := prepared.signed sign
  obtain ⟨error, failed⟩ := unsignable credentials present
  rw [failed] at made
  cases made

theorem exists_error_of_unprepared (unprepared : ∀ envelope, ¬ r.IsPrepared c envelope)
    (start : Journal) : ∃ error, ((run c r).runFrom start).1 = .error error := by
  have course := runsTo_run c r start
  generalize (run c r).runFrom start = ran at course ⊢
  cases course with
  | unprepared _ _ => exact ⟨_, rfl⟩
  | @unanswered envelope _ _ _ prepared _ _ => exact absurd prepared (unprepared envelope)
  | @answered envelope _ _ _ prepared _ _ => exact absurd prepared (unprepared envelope)

/-- One encoding of the message, signed when that is asked for, is all that goes out and
all that is shown of it.  A message that cannot be signed does not go out.  What resources
are held, and so what goes to spool files, shows in nothing else. -/
theorem executeKept_goesOut (c : Circumstances) (r : ExchangeRequest) (start : Journal) :
    (∃ envelope attempts dumps,
      GoesOut c r envelope attempts dumps start (executeKept .working c r start).2 ∧
        (0 < attempts → r.IsPrepared c envelope) ∧
        ((∃ envelope, r.IsPrepared c envelope) → 0 < attempts) ∧
        (0 < dumps → 0 < attempts) ∧
        ∀ answer, (executeKept .working c r start).1 = .ok answer →
          dumps = (r.observers.watches .outgoing).toNat) ∧
      (r.sign = true →
        (∀ credentials, r.credentials = some credentials →
          ∃ error, r.envelope.sign c.suite credentials c.timeToLive c.signedAt = .error error) →
        (executeKept .working c r start).2.sent = start.sent ∧
          ∃ error, (executeKept .working c r start).1 = .error error) ∧
      ∀ held, ∃ left, executeKept .working c r (start.withResources held) =
        ((executeKept .working c r start).1, (executeKept .working c r start).2.withResources left) := by
  simp only [executeKept_eq]
  obtain ⟨envelope, attempts, dumps, goesOut, prepared, sends, shown, answered⟩ :=
    exists_goesOut_run c r start
  have concluded : GoesOut c r envelope attempts dumps start (execute c r start).2 :=
    ⟨goesOut.sent, goesOut.shown⟩
  refine ⟨?_, ?_, execute_withResources c r start⟩
  · exact ⟨envelope, attempts, dumps, concluded, prepared, sends, shown, answered⟩
  · intro sign unsignable
    have unprepared (envelope : Envelope) : ¬ r.IsPrepared c envelope :=
      not_isPrepared_of_unsignable sign unsignable
    have none : attempts = 0 := by
      by_contra some
      exact unprepared envelope (prepared (Nat.pos_of_ne_zero some))
    subst none
    refine ⟨?_, exists_error_of_unprepared unprepared start⟩
    rw [concluded.sent, List.replicate_zero, List.append_nil]

end Exchange

end Ebms
