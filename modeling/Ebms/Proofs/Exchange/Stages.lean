import Ebms.Proofs.Exchange.Steps
import Ebms.Proofs.Security.Transit

/-! # The stages of an exchange

An exchange prepares its message, transmits it, and finishes with the answer.  The
first and the last stage fail or succeed whatever the journal holds, and they leave
what the transmissions record as it is. -/

set_option autoImplicit false

namespace Ebms

/-- The response of an attempt is accepted with an answer: it is decoded, and judged
well. -/
def ExchangeRequest.Accepts (c : Circumstances) (r : ExchangeRequest) (attempts : Nat)
    (response : Response) (answer : Answer) : Prop :=
  ∃ received verified, receivedIn response = .ok received ∧
    judge (Exchange.signaturePolicy c r) r.expected response.status received = .ok verified ∧
      answer =
        { requestMessageId := r.envelope.messageId, attempts, status := response.status,
          envelope := received, verified }

/-- The message that is sent is `envelope`, and no observer refuses it. -/
structure ExchangeRequest.IsPrepared (c : Circumstances) (r : ExchangeRequest)
    (envelope : Envelope) : Prop where
  built : r.observers.verdict (.built r.envelope) = .ok ()
  signed : r.sign = true → ∃ credentials, r.credentials = some credentials ∧
    r.envelope.sign c.suite credentials c.timeToLive c.signedAt = .ok envelope ∧
      r.observers.verdict (.signed envelope) = .ok ()
  unsigned : r.sign = false → envelope = r.envelope

def Observers.IsWilling (o : Observers) : Prop :=
  ∀ notice, notice.slot ≠ .retry → o.watches notice.slot = true → o.reply notice = .ok ()

theorem Observers.IsWilling.verdict {o : Observers} (willing : o.IsWilling) {notice : Notice}
    (fallible : notice.slot ≠ .retry) : o.verdict notice = .ok () := by
  unfold Observers.verdict
  by_cases watched : o.watches notice.slot = true
  · rw [if_pos watched, willing notice fallible watched]
    rfl
  · rw [if_neg watched]

def Journal.retries (j : Journal) : List Notice :=
  j.notices.filter fun notice => notice.slot == .retry

/-- What the transmissions record: themselves, the time, and the notices of retries. -/
def Journal.transmissions (j : Journal) : List Transmission × Span × List Notice :=
  (j.sent, j.elapsed, j.retries)

def Journal.afterPreparing (j : Journal) : List Transmission × Span × List Notice :=
  (j.sent, j.elapsed, j.notices.filter fun notice => notice.slot != .build)

theorem Journal.transmissions_of_afterPreparing {j k : Journal}
    (same : k.afterPreparing = j.afterPreparing) : k.transmissions = j.transmissions := by
  simp only [afterPreparing, Prod.mk.injEq] at same
  obtain ⟨sent, elapsed, notices⟩ := same
  have retries (j : Journal) : j.retries =
      (j.notices.filter fun notice => notice.slot != .build).filter
        fun notice => notice.slot == .retry := by
    rw [List.filter_filter]
    exact List.filter_congr fun notice _ => by cases notice.slot <;> rfl
  rw [transmissions, transmissions, sent, elapsed, retries k, retries j, notices]

namespace Exchange

variable {c : Circumstances} {r : ExchangeRequest} {envelope : Envelope} {wire : WireMessage}
  {attempts : Nat} {response : Response} {answer : Answer} {j k : Journal}

/-! ## Preparing -/

theorem exists_signed (prepared : r.IsPrepared c envelope) (j : Journal) :
    ∃ k, (signed c r).runFrom j = (.ok envelope, k) := by
  unfold signed
  cases sign : r.sign with
  | false =>
      rw [if_neg Bool.false_ne_true, prepared.unsigned sign]
      exact ⟨j, rfl⟩
  | true =>
      obtain ⟨credentials, present, made, willing⟩ := prepared.signed sign
      have told := runFrom_observe r.observers (.signed envelope)
        { j with counts := j.counts ++ [.of .signaturesCreated] }
      rw [willing] at told
      simp only [if_true, present, made]
      unfold count
      rw [runFrom_modify_bind, runFrom_bind_of_ok told]
      exact ⟨_, rfl⟩

theorem exists_prepare (prepared : r.IsPrepared c envelope) (j : Journal) :
    ∃ k, (prepare c r).runFrom j = (.ok (envelope.encode c.boundary), k) := by
  have told := runFrom_observe r.observers (.built r.envelope) { j with phase := .building }
  rw [prepared.built] at told
  unfold prepare enter
  rw [runFrom_modify_bind, runFrom_bind_of_ok told, runFrom_modify_bind]
  obtain ⟨k, made⟩ := exists_signed prepared
    { j with phase := .signing, notices := j.notices ++ r.observers.told [.built r.envelope] }
  rw [runFrom_bind_of_ok made, runFrom_bind_of_ok (runFrom_retain_working _ _)]
  exact ⟨_, rfl⟩

theorem verdict_of_observe_eq_ok {o : Observers} {notice : Notice}
    (done : ((observe o notice).runFrom j).1 = .ok ()) : o.verdict notice = .ok () := by
  rw [runFrom_observe] at done
  exact done

theorem isPrepared_of_prepare_eq_ok (done : ((prepare c r).runFrom j).1 = .ok wire) :
    ∃ envelope, r.IsPrepared c envelope ∧ wire = envelope.encode c.boundary := by
  unfold prepare at done
  obtain ⟨_, entered, _, done⟩ := runFrom_bind_eq_ok done
  obtain ⟨_, shown, built, done⟩ := runFrom_bind_eq_ok done
  obtain ⟨_, _, _, done⟩ := runFrom_bind_eq_ok done
  obtain ⟨envelope, _, made, done⟩ := runFrom_bind_eq_ok done
  obtain ⟨_, _, _, done⟩ := runFrom_bind_eq_ok done
  have willing := verdict_of_observe_eq_ok (congrArg Prod.fst built)
  refine ⟨envelope, ?_, (Except.ok.inj done).symm⟩
  unfold signed at made
  cases sign : r.sign with
  | false =>
      rw [sign, if_neg Bool.false_ne_true] at made
      cases made
      exact ⟨willing, fun signs => by simp [sign] at signs, fun _ => rfl⟩
  | true =>
      simp only [sign, if_true] at made
      split at made
      · cases made
      · rename_i credentials present
        split at made
        · cases made
        · rename_i given signing
          obtain ⟨_, _, _, made⟩ := runFrom_bind_eq_ok (congrArg Prod.fst made)
          obtain ⟨_, _, told, made⟩ := runFrom_bind_eq_ok made
          cases made
          refine ⟨willing, fun _ => ⟨credentials, present, signing, ?_⟩, fun signs => ?_⟩
          · exact verdict_of_observe_eq_ok (congrArg Prod.fst told)
          · simp [sign] at signs

section Keeps

variable {γ : Type} {view : Journal → γ}

theorem keeps_signed (building : ∀ notice : Notice, notice.slot = .build →
      ∀ j, view { j with notices := j.notices ++ [notice] } = view j)
    (signing : ∀ j, view { j with counts := j.counts ++ [.of .signaturesCreated] } = view j) :
    Keeps (signed c r) view := by
  unfold signed
  split
  · split
    · exact Keeps.throw _
    · split
      · exact Keeps.throw _
      · refine Keeps.bind (Keeps.modify signing) ?_
        intro _
        exact Keeps.bind (Keeps.observe (building _ rfl)) fun _ => Keeps.pure _
  · exact Keeps.pure _

/-- Preparing a message enters phases, tells of the message, counts a signature and retains
the bytes. -/
theorem keeps_preparing (entering : ∀ j phase, view { j with phase } = view j)
    (building : ∀ notice : Notice, notice.slot = .build →
      ∀ j, view { j with notices := j.notices ++ [notice] } = view j)
    (signing : ∀ j, view { j with counts := j.counts ++ [.of .signaturesCreated] } = view j)
    (retaining : ∀ j held, view { j with held } = view j) :
    Keeps (prepare c r) view := by
  unfold prepare
  refine Keeps.bind (Keeps.modify fun j => entering j _) fun _ => ?_
  refine Keeps.bind (Keeps.observe (building _ rfl)) fun _ => ?_
  refine Keeps.bind (Keeps.modify fun j => entering j _) fun _ => ?_
  refine Keeps.bind (keeps_signed building signing) fun envelope => ?_
  exact Keeps.bind (Keeps.retain retaining) fun _ => Keeps.pure _

end Keeps

theorem keeps_prepare : Keeps (prepare c r) Journal.afterPreparing := by
  refine keeps_preparing (fun _ _ => rfl) ?_ (fun _ => rfl) (fun _ _ => rfl)
  intro notice building j
  simp [Journal.afterPreparing, List.filter_append, building]

/-! ## Finishing -/

theorem runFrom_countVerification (policy : SignaturePolicy) (received : Option Envelope)
    (j : Journal) :
    ∃ counts, (countVerification policy received).runFrom j = (.ok (), { j with counts }) := by
  unfold countVerification
  split
  · exact ⟨_, rfl⟩
  · exact ⟨j.counts, rfl⟩

theorem accept_eq_ok_iff :
    ((accept c r attempts response).runFrom j).1 = .ok answer ↔
      r.Accepts c attempts response answer := by
  unfold accept ExchangeRequest.Accepts
  cases read : receivedIn response with
  | error error =>
      rw [runFrom_bind_of_error (runFrom_orFail _ j)]
      simp
  | ok received =>
      obtain ⟨counts, counted⟩ := runFrom_countVerification (signaturePolicy c r) received j
      rw [runFrom_bind_of_ok (runFrom_orFail _ j), runFrom_bind_of_ok counted]
      cases judged : judge (signaturePolicy c r) r.expected response.status received with
      | error error =>
          rw [runFrom_bind_of_error (runFrom_orFail _ _)]
          simp [judged]
      | ok verified =>
          rw [runFrom_bind_of_ok (runFrom_orFail _ _), runFrom_pure]
          simp [judged, eq_comm]

theorem keeps_accept {γ : Type} {view : Journal → γ}
    (counting : ∀ j result, view
      { j with counts := j.counts ++ [.ofResult .signatureVerifications result] } = view j) :
    Keeps (accept c r attempts response) view := by
  unfold accept
  refine Keeps.bind (Keeps.orFail _) fun received => ?_
  refine Keeps.bind ?_ fun _ => Keeps.bind (Keeps.orFail _) fun verified => Keeps.pure _
  unfold countVerification
  split
  · exact Keeps.modify fun j => counting j _
  · exact Keeps.pure _

theorem keeps_deliver {γ : Type} {view : Journal → γ}
    (delivering : ∀ notice : Notice, notice.slot ≠ .build → notice.slot ≠ .retry →
      ∀ j, view { j with notices := j.notices ++ [notice] } = view j) :
    Keeps (deliver r wire response answer) view := by
  have observing (notice : Notice) (building : notice.slot ≠ .build)
      (retrying : notice.slot ≠ .retry) : Keeps (observe r.observers notice) view :=
    Keeps.observe (delivering notice building retrying)
  unfold deliver
  refine Keeps.bind (observing _ (by simp [Notice.slot]) (by simp [Notice.slot])) fun _ => ?_
  refine Keeps.bind (observing _ (by simp [Notice.slot]) (by simp [Notice.slot])) fun _ => ?_
  refine Keeps.bind (observing _ (by simp [Notice.slot]) (by simp [Notice.slot])) fun _ => ?_
  split
  · exact observing _ (by simp [Notice.slot]) (by simp [Notice.slot])
  · exact Keeps.pure _

theorem keeps_finishing {γ : Type} {view : Journal → γ}
    (entering : ∀ j phase, view { j with phase } = view j)
    (retaining : ∀ j held, view { j with held } = view j)
    (counting : ∀ j result, view
      { j with counts := j.counts ++ [.ofResult .signatureVerifications result] } = view j)
    (delivering : ∀ notice : Notice, notice.slot ≠ .build → notice.slot ≠ .retry →
      ∀ j, view { j with notices := j.notices ++ [notice] } = view j)
    (answered : Nat × Response) : Keeps (finish c r wire answered) view := by
  unfold finish
  refine Keeps.bind (Keeps.modify fun j => entering j _) fun _ => ?_
  refine Keeps.bind (Keeps.retain retaining) fun _ => ?_
  refine Keeps.bind (keeps_accept counting) fun answer => ?_
  refine Keeps.bind (Keeps.modify fun j => entering j _) fun _ => ?_
  exact Keeps.bind (keeps_deliver delivering) fun _ => Keeps.pure _

theorem keeps_finish (answered : Nat × Response) :
    Keeps (finish c r wire answered) Journal.transmissions := by
  refine keeps_finishing (fun _ _ => rfl) (fun _ _ => rfl) (fun _ _ => rfl) ?_ answered
  intro notice _ retrying j
  simp [Journal.transmissions, Journal.retries, List.filter_append, retrying]

section Finish

variable (c : Circumstances) (r : ExchangeRequest) (wire : WireMessage) (attempts : Nat)
  (response : Response) (j : Journal)

theorem exists_runFrom_finish :
    ∃ k, (finish c r wire (attempts, response)).runFrom j =
        (accept c r attempts response >>= fun answer => enter .done >>= fun _ =>
          deliver r wire response answer >>= fun _ => pure answer).runFrom k ∧
      k.notices = j.notices := by
  refine ⟨({ j with phase := .awaitingResponse } : Journal).retained response.body, ?_, rfl⟩
  unfold finish enter
  rw [runFrom_modify_bind, runFrom_bind_of_ok (runFrom_retain_working _ _)]

theorem notices_accept : ((accept c r attempts response).runFrom j).2.notices = j.notices :=
  keeps_accept (fun _ _ => rfl) j

theorem finish_of_not_accepts (rejected : ∀ answer, ¬ r.Accepts c attempts response answer) :
    ∃ error k, (finish c r wire (attempts, response)).runFrom j = (.error error, k) ∧
      k.notices = j.notices := by
  obtain ⟨before, step, same⟩ := exists_runFrom_finish c r wire attempts response j
  have kept := notices_accept c r attempts response before
  cases ran : (accept c r attempts response).runFrom before with
  | mk result after =>
      rw [ran] at kept
      cases result with
      | error error =>
          exact ⟨error, after, step.trans (runFrom_bind_of_error ran), kept.trans same⟩
      | ok answer => exact absurd (accept_eq_ok_iff.mp (congrArg Prod.fst ran)) (rejected answer)

variable {c r attempts response} in
theorem finish_of_accepts {answer : Answer} (accepts : r.Accepts c attempts response answer) :
    ∃ k, (finish c r wire (attempts, response)).runFrom j =
        (deliver r wire response answer >>= fun _ => pure answer).runFrom k ∧
      k.notices = j.notices ∧ k.phase = .done := by
  obtain ⟨before, step, same⟩ := exists_runFrom_finish c r wire attempts response j
  have kept := notices_accept c r attempts response before
  cases ran : (accept c r attempts response).runFrom before with
  | mk result after =>
      have succeeds : result = .ok answer := by
        rw [← accept_eq_ok_iff.mpr accepts, ran]
      subst succeeds
      rw [ran] at kept
      rw [runFrom_bind_of_ok ran] at step
      exact ⟨{ after with phase := .done }, step, kept.trans same, rfl⟩

theorem deliver_of_willing (answer : Answer) (willing : r.observers.IsWilling) :
    ∃ k, (deliver r wire response answer).runFrom j = (.ok (), k) := by
  have told (notice : Notice) (fallible : notice.slot ≠ .retry) (j : Journal) :
      ∃ k, (observe r.observers notice).runFrom j = (.ok (), k) := by
    rw [runFrom_observe, willing.verdict fallible]
    exact ⟨_, rfl⟩
  unfold deliver
  obtain ⟨first, outgoing⟩ :=
    told (.outgoing answer.requestMessageId wire.contentType wire.body) (by simp [Notice.slot]) j
  obtain ⟨second, incoming⟩ :=
    told (.incoming answer.requestMessageId response.contentType response.body)
      (by simp [Notice.slot]) first
  obtain ⟨third, responded⟩ := told (.response answer) (by simp [Notice.slot]) second
  rw [runFrom_bind_of_ok outgoing, runFrom_bind_of_ok incoming, runFrom_bind_of_ok responded]
  split
  · exact told _ (by simp [Notice.slot]) third
  · exact ⟨third, rfl⟩

variable {c r wire attempts response j}

theorem finish_eq_ok_of_accepts {answer : Answer} (willing : r.observers.IsWilling)
    (accepts : r.Accepts c attempts response answer) :
    ((finish c r wire (attempts, response)).runFrom j).1 = .ok answer := by
  obtain ⟨k, step, _⟩ := finish_of_accepts wire j accepts
  obtain ⟨last, delivered⟩ := deliver_of_willing r wire response k answer willing
  rw [step, runFrom_bind_of_ok delivered, runFrom_pure]

theorem accepts_of_finish_eq_ok {answer : Answer}
    (done : ((finish c r wire (attempts, response)).runFrom j).1 = .ok answer) :
    r.Accepts c attempts response answer := by
  obtain ⟨before, step, _⟩ := exists_runFrom_finish c r wire attempts response j
  rw [step] at done
  obtain ⟨given, _, accepted, done⟩ := runFrom_bind_eq_ok done
  obtain ⟨_, _, _, done⟩ := runFrom_bind_eq_ok done
  obtain ⟨_, _, _, done⟩ := runFrom_bind_eq_ok done
  have same : given = answer := Except.ok.inj done
  rw [← same]
  exact accept_eq_ok_iff.mp (congrArg Prod.fst accepted)

theorem phase_finish {answer : Answer}
    (done : ((finish c r wire (attempts, response)).runFrom j).1 = .ok answer) :
    ((finish c r wire (attempts, response)).runFrom j).2.phase = .done := by
  obtain ⟨k, step, _, entered⟩ := finish_of_accepts wire j (accepts_of_finish_eq_ok done)
  have kept : Keeps (deliver r wire response answer >>= fun _ => pure answer) Journal.phase :=
    Keeps.bind (keeps_deliver fun _ _ _ _ => rfl) fun _ => Keeps.pure _
  rw [step, kept, entered]

end Finish

/-! ## The whole exchange -/

section Run

variable {l : Journal} {error : ExchangeError} {answered : Nat × Response}

theorem run_of_prepare_error (making : (prepare c r).runFrom j = (.error error, k)) :
    (run c r).runFrom j = (.error error, k) := runFrom_bind_of_error making

theorem run_of_transmit_error (making : (prepare c r).runFrom j = (.ok wire, k))
    (sending : (transmit c r wire).runFrom k = (.error error, l)) :
    (run c r).runFrom j = (.error error, l) := by
  rw [run, runFrom_bind_of_ok making, runFrom_bind_of_error sending]

theorem run_of_transmit_ok (making : (prepare c r).runFrom j = (.ok wire, k))
    (sending : (transmit c r wire).runFrom k = (.ok answered, l)) :
    (run c r).runFrom j = (finish c r wire answered).runFrom l := by
  rw [run, runFrom_bind_of_ok making, runFrom_bind_of_ok sending]

/-- How far an exchange comes: its message is not prepared, its transmissions end without
a response, or it finishes with one. -/
inductive RunsTo (c : Circumstances) (r : ExchangeRequest) (start : Journal) :
    Except ExchangeError Answer × Journal → Prop where
  | unprepared {error : ExchangeError} {j : Journal}
      (unprepared : ∀ envelope, ¬ r.IsPrepared c envelope)
      (making : (prepare c r).runFrom start = (.error error, j)) :
      RunsTo c r start (.error error, j)
  | unanswered {envelope : Envelope} {error : ExchangeError} {j k : Journal}
      (prepared : r.IsPrepared c envelope)
      (making : (prepare c r).runFrom start = (.ok (envelope.encode c.boundary), j))
      (sending : (transmit c r (envelope.encode c.boundary)).runFrom j = (.error error, k)) :
      RunsTo c r start (.error error, k)
  | answered {envelope : Envelope} {answered : Nat × Response} {j k : Journal}
      (prepared : r.IsPrepared c envelope)
      (making : (prepare c r).runFrom start = (.ok (envelope.encode c.boundary), j))
      (sending : (transmit c r (envelope.encode c.boundary)).runFrom j = (.ok answered, k)) :
      RunsTo c r start ((finish c r (envelope.encode c.boundary) answered).runFrom k)

theorem runsTo_run (c : Circumstances) (r : ExchangeRequest) (start : Journal) :
    RunsTo c r start ((run c r).runFrom start) := by
  cases making : (prepare c r).runFrom start with
  | mk result j =>
      cases result with
      | error error =>
          rw [run_of_prepare_error making]
          refine .unprepared (fun envelope prepared => ?_) making
          obtain ⟨k, made⟩ := exists_prepare prepared start
          rw [making] at made
          cases made
      | ok wire =>
          obtain ⟨envelope, prepared, rfl⟩ :=
            isPrepared_of_prepare_eq_ok (congrArg Prod.fst making)
          cases sending : (transmit c r (envelope.encode c.boundary)).runFrom j with
          | mk result k =>
              cases result with
              | error error =>
                  rw [run_of_transmit_error making sending]
                  exact .unanswered prepared making sending
              | ok answered =>
                  rw [run_of_transmit_ok making sending]
                  exact .answered prepared making sending

theorem execute_eq (c : Circumstances) (r : ExchangeRequest) (j : Journal) :
    execute c r j =
      (((run c r).runFrom j).1, conclude ((run c r).runFrom j).1 ((run c r).runFrom j).2) := rfl

end Run

/-! ## A sample exchange -/

open Envelope

def sampleClock : Clock := .ofReach (Span.ofSeconds 4294967296)

def sampleCircumstances (outcome : Nat → Outcome) (cancelled : Nat → Bool) : Circumstances where
  suite := Suite.standardFor samplePair
  clock := sampleClock
  timeToLive := Span.ofSeconds 300
  attemptLimit := Span.ofSeconds 30
  signedAt := sampleSigning
  verifiedAt := sampleArrival
  boundary := "MIMEBoundary_sample"
  outcome
  cancelled

def sampleRequest (retry : RetryPolicy) : ExchangeRequest where
  envelope := sampleOrder
  endpoint := "https://seller.test/as4"
  expected := .receiptFor sampleOrder.messageId
  credentials := some (sampleCredentials .issuerSerial)
  sign := true
  requireSignedResponse := false
  retry
  observers := .none

theorem sampleRequest_isPrepared (outcome : Nat → Outcome) (cancelled : Nat → Bool)
    (retry : RetryPolicy) :
    (sampleRequest retry).IsPrepared (sampleCircumstances outcome cancelled) sampleSigned where
  built := rfl
  signed := by
    intro _
    have made : sampleOrder.sign (Suite.standardFor samplePair) (sampleCredentials .issuerSerial)
        (Span.ofSeconds 300) sampleSigning = .ok sampleSigned :=
      sign_eq rfl (signingEntry_sampleCredentials .issuerSerial)
    exact ⟨sampleCredentials .issuerSerial, rfl, made, rfl⟩
  unsigned := by
    intro unsigned
    cases unsigned

end Exchange

end Ebms
