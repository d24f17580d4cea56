import Ebms.Proofs.Exchange.RetryBudget

/-! # Which answers are accepted

An answer is accepted for its status and for the message in it.  The checks are made one
after the other, in an order that decides which failure is reported; together they
demand what is said here.  Whether anything is delivered is decided by them alone. -/

set_option autoImplicit false

namespace Ebms

/-- What a policy demands of the signature of a message. -/
structure SignaturePolicy.Admits (policy : SignaturePolicy) (e : Envelope) : Prop where
  genuine : e.isSigned = true → ∀ credentials, policy.credentials = some credentials →
    ∃ verified, e.verify policy.suite credentials policy.verifiedAt = .ok verified
  present : policy.required = true → e.isSigned = true ∧ policy.credentials.isSome = true

/-- The message is the one that was asked for, or says that there is none. -/
def Expectation.IsMetBy (e : Envelope) : Expectation → Prop
  | .pulledMessage channel =>
      (∃ message, e.unit = .user message ∧ message.effectiveChannel = channel) ∨
        ∃ info errors, e.unit = .errorSignal info errors ∧ errors ≠ [] ∧
          ∀ error ∈ errors, error.code = "EBMS:0006" ∧ error.severity = .warning
  | .receiptFor messageId => ∃ info, e.unit = .receipt info ∧ info.refToMessageId = some messageId

/-- The response succeeds, and nothing is wrong with the message in it, if there is one. -/
structure Response.IsAcceptable (policy : SignaturePolicy) (expected : Expectation)
    (response : Response) : Prop where
  succeeds : 200 ≤ response.status ∧ response.status ≤ 299
  decodes : ∃ received, decode response.contentType response.body = .ok received ∧
    ∀ e, received = some e → policy.Admits e ∧ expected.IsMetBy e

/-- What is told of an answer: the bytes of both sides, and what they mean. -/
def Journal.deliveries (j : Journal) : List Notice :=
  j.notices.filter fun notice => notice.slot != .build && notice.slot != .retry

/-! ## The checks -/

section Checks

variable {policy : SignaturePolicy} {expected : Expectation} {status : Nat}
  {received : Option Envelope} {e : Envelope} {verified : Option Verified}

theorem check_verifiable {credentials : Credentials} (signed : e.isSigned = true)
    (present : policy.credentials = some credentials) :
    policy.check (some e) =
      (e.verify policy.suite credentials policy.verifiedAt).map some := by
  unfold SignaturePolicy.check
  simp only [present, signed, if_true]
  cases e.verify policy.suite credentials policy.verifiedAt <;> rfl

theorem check_unverifiable
    (unverifiable : ¬ (e.isSigned = true ∧ policy.credentials.isSome = true)) :
    policy.check (some e) = .ok verified ↔ policy.required = false ∧ verified = none := by
  unfold SignaturePolicy.check
  cases credentials : policy.credentials with
  | none =>
      by_cases signed : e.isSigned = true <;> cases policy.required <;>
        simp [signed, @eq_comm _ none]
  | some credentials =>
      have unsigned : e.isSigned = false := by simpa [credentials] using unverifiable
      cases policy.required <;> simp [unsigned, @eq_comm _ none]

theorem exists_check_eq_ok_iff :
    (∃ verified, policy.check (some e) = .ok verified) ↔ policy.Admits e := by
  by_cases verifiable : e.isSigned = true ∧ policy.credentials.isSome = true
  · obtain ⟨credentials, present⟩ := Option.isSome_iff_exists.mp verifiable.2
    rw [check_verifiable verifiable.1 present]
    constructor
    · rintro ⟨verified, success⟩
      refine ⟨fun _ other same => ?_, fun _ => verifiable⟩
      rw [present, Option.some.injEq] at same
      subst same
      cases genuine : e.verify policy.suite credentials policy.verifiedAt with
      | ok verified => exact ⟨verified, rfl⟩
      | error error =>
          rw [genuine] at success
          cases success
    · intro admits
      obtain ⟨verified, genuine⟩ := admits.genuine verifiable.1 credentials present
      exact ⟨some verified, by rw [genuine]; rfl⟩
  · simp only [check_unverifiable verifiable, exists_and_left, exists_eq, and_true]
    constructor
    · intro optional
      refine ⟨fun signed credentials present => ?_, fun required => ?_⟩
      · exact absurd ⟨signed, by rw [present]; rfl⟩ verifiable
      · rw [optional] at required
        cases required
    · intro admits
      by_contra required
      exact verifiable (admits.present (by simpa using required))

theorem isSome_iff_of_check_eq_ok (checked : policy.check received = .ok verified) :
    verified.isSome = true ↔
      ∃ e, received = some e ∧ e.isSigned = true ∧ policy.credentials.isSome = true := by
  cases received with
  | none =>
      cases checked
      simp
  | some e =>
      by_cases verifiable : e.isSigned = true ∧ policy.credentials.isSome = true
      · obtain ⟨credentials, present⟩ := Option.isSome_iff_exists.mp verifiable.2
        rw [check_verifiable verifiable.1 present] at checked
        have some : verified.isSome = true := by
          cases genuine : e.verify policy.suite credentials policy.verifiedAt with
          | ok found =>
              rw [genuine] at checked
              cases checked
              rfl
          | error error =>
              rw [genuine] at checked
              cases checked
        simp [some, verifiable]
      · obtain ⟨_, rfl⟩ := (check_unverifiable verifiable).mp checked
        simpa using verifiable

theorem checkStatus_eq_ok_iff :
    checkStatus status received = .ok () ↔ 200 ≤ status ∧ status ≤ 299 := by
  unfold checkStatus
  split
  case isTrue success => simp [success]
  case isFalse failure =>
    simp only [failure, iff_false]
    split <;> simp

theorem isEmptyChannel_iff {errors : List EbmsError} :
    isEmptyChannel errors = true ↔
      errors ≠ [] ∧ ∀ error ∈ errors, error.code = "EBMS:0006" ∧ error.severity = .warning := by
  simp [isEmptyChannel, emptyChannelCode]

theorem admits_eq_ok_iff : expected.admits e.unit = .ok () ↔ expected.IsMetBy e := by
  unfold Expectation.admits Expectation.IsMetBy
  cases expected with
  | pulledMessage channel =>
      simp only [← isEmptyChannel_iff]
      cases e.unit with
      | user message => by_cases same : message.effectiveChannel = channel <;> simp [same]
      | errorSignal info errors =>
          by_cases empty : isEmptyChannel errors = true
          · simp only [empty, if_true]
            exact iff_of_true trivial (.inr ⟨info, errors, rfl, empty⟩)
          · simp [empty]
      | pullRequest info channel => simp
      | receipt info => simp
  | receiptFor messageId =>
      cases e.unit with
      | receipt info => by_cases same : info.refToMessageId = some messageId <;> simp [same]
      | user message => simp
      | errorSignal info errors => simp
      | pullRequest info channel => simp

theorem judge_eq_ok_iff :
    judge policy expected status received = .ok verified ↔
      policy.check received = .ok verified ∧ checkStatus status received = .ok () ∧
        correlate expected received = .ok () := by
  unfold judge
  split
  case h_1 error failed => simp [failed]
  case h_2 found checked =>
    split
    case h_1 error failed => simp [failed]
    case h_2 succeeded =>
      split
      case h_1 error failed => simp [failed]
      case h_2 correlated => simp [checked, succeeded, correlated]

end Checks

/-! ## The exchange -/

namespace Exchange

variable {c : Circumstances} {r : ExchangeRequest} {envelope : Envelope} {attempts : Nat}
  {response : Response} {answer : Answer} {start : Journal}

theorem receivedIn_eq_ok_iff {received : Option Envelope} :
    receivedIn response = .ok received ↔
      decode response.contentType response.body = .ok received := by
  unfold receivedIn
  cases decode response.contentType response.body <;> simp

theorem exists_accepts_iff :
    (∃ answer, r.Accepts c attempts response answer) ↔
      response.IsAcceptable (signaturePolicy c r) r.expected := by
  constructor
  · rintro ⟨answer, received, verified, read, judged, -⟩
    obtain ⟨checked, succeeded, correlated⟩ := judge_eq_ok_iff.mp judged
    refine ⟨checkStatus_eq_ok_iff.mp succeeded, received, receivedIn_eq_ok_iff.mp read, ?_⟩
    rintro e rfl
    exact ⟨exists_check_eq_ok_iff.mp ⟨verified, checked⟩, admits_eq_ok_iff.mp correlated⟩
  · rintro ⟨succeeds, received, read, demands⟩
    have acceptable : ∃ verified, (signaturePolicy c r).check received = .ok verified ∧
        correlate r.expected received = .ok () := by
      cases received with
      | none => exact ⟨none, rfl, rfl⟩
      | some e =>
          obtain ⟨admits, met⟩ := demands e rfl
          obtain ⟨verified, checked⟩ := exists_check_eq_ok_iff.mpr admits
          exact ⟨verified, checked, admits_eq_ok_iff.mpr met⟩
    obtain ⟨verified, checked, correlated⟩ := acceptable
    exact ⟨_, received, verified, receivedIn_eq_ok_iff.mpr read,
      judge_eq_ok_iff.mpr ⟨checked, checkStatus_eq_ok_iff.mpr succeeds, correlated⟩, rfl⟩

theorem of_transmit_eq_ok {wire : WireMessage} {k : Journal}
    (transmitted : ((transmit c r wire).runFrom k).1 = .ok (attempts, response)) :
    c.IsLast r.retry attempts ∧ c.received attempts = .ok response ∧
      ∀ i, 1 ≤ i → i < attempts → c.cancelled i = false := by
  obtain ⟨causes, ending, course, ran⟩ := transmitFrom_course (r := r)
    (t := transmissionOf r wire) 1 (r.retry.maxAttempts - 1) k
  rw [transmit, ran] at transmitted
  cases ending with
  | answered given =>
      cases transmitted
      exact ⟨course.isLast (by simp), course.last, course.uncancelled⟩
  | failed cause => cases transmitted
  | cancelled cause => cases transmitted

theorem deliveries_of_afterPreparing {j k : Journal}
    (same : k.afterPreparing = j.afterPreparing) : k.deliveries = j.deliveries := by
  have notices := congrArg (fun view => view.2.2.filter fun notice => notice.slot != .retry) same
  simpa [Journal.afterPreparing, Journal.deliveries, List.filter_filter, Bool.and_comm]
    using notices

theorem keeps_transmit (wire : WireMessage) : Keeps (transmit c r wire) Journal.deliveries := by
  intro j
  obtain ⟨causes, ending, -, ran⟩ := transmitFrom_course (c := c) (r := r)
    (t := transmissionOf r wire) 1 (r.retry.maxAttempts - 1) j
  have none : (r.observers.told (retryNotices 1 (ending.paused causes))).filter
      (fun notice => notice.slot != .build && notice.slot != .retry) = [] := by
    refine List.filter_eq_nil_iff.mpr fun notice told => ?_
    have slot := slot_of_mem_retryNotices (List.mem_filter.mp told).1
    simp [slot]
  rw [transmit, ran, Journal.deliveries, Journal.notices_transmitted, List.filter_append, none,
    List.append_nil, Journal.deliveries]

/-- Anything is delivered only of an exchange that is accepted. -/
theorem keepsUnlessOk_run (willing : r.observers.IsWilling) :
    KeepsUnlessOk (run c r) Journal.deliveries := by
  have prepares : Keeps (prepare c r) Journal.deliveries :=
    fun j => deliveries_of_afterPreparing (keeps_prepare j)
  unfold run
  refine KeepsUnlessOk.bind prepares fun wire => ?_
  refine KeepsUnlessOk.bind (keeps_transmit wire) fun ⟨attempts, response⟩ j => ?_
  by_cases acceptable : ∃ answer, r.Accepts c attempts response answer
  · obtain ⟨answer, accepts⟩ := acceptable
    exact .inr ⟨answer, finish_eq_ok_of_accepts willing accepts⟩
  · obtain ⟨error, k, failed, same⟩ :=
      finish_of_not_accepts c r wire attempts response j (not_exists.mp acceptable)
    left
    rw [failed, Journal.deliveries, same]
    rfl

theorem accepts_of_execute_eq_ok (done : (execute c r start).1 = .ok answer) :
    ∃ attempts response, r.Accepts c attempts response answer := by
  rw [execute_eq] at done
  obtain ⟨wire, j, -, done⟩ := runFrom_bind_eq_ok done
  obtain ⟨⟨attempts, response⟩, k, -, done⟩ := runFrom_bind_eq_ok done
  exact ⟨attempts, response, accepts_of_finish_eq_ok done⟩

/-- With observers that refuse nothing, an exchange with a response succeeds exactly when
the response is acceptable; only then anything is delivered; and what is delivered is
verified exactly when it can be. -/
theorem execute_eq_ok_iff (willing : r.observers.IsWilling) (start : Journal) :
    (∀ envelope attempts response k, r.IsPrepared c envelope →
      ((transmit c r (envelope.encode c.boundary)).runFrom k).1 = .ok (attempts, response) →
        ((∃ answer, (execute c r start).1 = .ok answer) ↔
          response.IsAcceptable (signaturePolicy c r) r.expected) ∧
        ∀ answer, (execute c r start).1 = .ok answer →
          decode response.contentType response.body = .ok answer.envelope) ∧
      ((execute c r start).2.deliveries ≠ start.deliveries →
        ∃ answer, (execute c r start).1 = .ok answer) ∧
      ∀ answer, (execute c r start).1 = .ok answer →
        (answer.verified.isSome = true ↔
          ∃ e, answer.envelope = some e ∧ e.isSigned = true ∧ r.credentials.isSome = true) := by
  refine ⟨?_, ?_, ?_⟩
  · intro envelope attempts response k prepared transmitted
    obtain ⟨isLast, received, going⟩ := of_transmit_eq_ok transmitted
    obtain ⟨-, follows⟩ := execute_uncancelled prepared start isLast going
    unfold FollowsFrom at follows
    rw [received] at follows
    obtain ⟨accepts, delivers⟩ := follows
    refine ⟨⟨?_, ?_⟩, ?_⟩
    · rintro ⟨answer, done⟩
      exact exists_accepts_iff.mp ⟨answer, accepts answer done⟩
    · intro acceptable
      obtain ⟨answer, accepted⟩ := exists_accepts_iff.mpr acceptable
      exact ⟨answer, delivers willing answer accepted⟩
    · intro answer done
      obtain ⟨found, verified, read, -, rfl⟩ := accepts answer done
      exact receivedIn_eq_ok_iff.mp read
  · intro delivered
    exact (keepsUnlessOk_run willing start).resolve_left delivered
  · intro answer done
    obtain ⟨attempts, response, found, verified, -, judged, rfl⟩ := accepts_of_execute_eq_ok done
    exact isSome_iff_of_check_eq_ok (judge_eq_ok_iff.mp judged).1

open Envelope Multipart

def sampleReceipt : Envelope where
  soap := .v12
  messagingId := "eb-2"
  bodyId := "body-2"
  unit := .receipt
    { timestamp := .ofSeconds 1700000090, messageId := "m-2",
      refToMessageId := some "m-1" }
  security := none
  attachments := []

def sampleReply (boundary : String) : Response :=
  { status := 200, contentType := some (sampleReceipt.encode boundary).contentType,
    body := (sampleReceipt.encode boundary).body }

def sampleAnswered (boundary : String) : Circumstances :=
  sampleCircumstances (fun _ => .answered (sampleReply boundary)) fun _ => false

/-- The order succeeds when it is answered with its receipt. -/
theorem execute_eq_ok_iff_sampleReceipt :
    ∃ boundary answer,
      decode (sampleReply boundary).contentType (sampleReply boundary).body =
          .ok (some sampleReceipt.toMilliseconds) ∧
        (execute (sampleAnswered boundary) (sampleRequest samplePolicy) default).1 =
          .ok answer := by
  obtain ⟨boundary, valid, absent⟩ := exists_isAbsent [sampleReceipt.document]
  have carried : sampleReceipt.IsCarried boundary :=
    { fourDigitYears := by
        refine ⟨⟨by decide, by decide⟩, ?_⟩
        intro header present
        cases present
      statesErrors := trivial
      plainAttachments := by
        intro a member
        cases member
      validBoundary := valid
      absentFromDocument := absent _ (List.mem_singleton_self _)
      absentFromAttachments := by
        intro a member
        cases member }
  have decoded := decode_encode_eq carried
  have received : (sampleAnswered boundary).received 1 = .ok (sampleReply boundary) := rfl
  have transmitted (wire : WireMessage) :
      ((transmit (sampleAnswered boundary) (sampleRequest samplePolicy) wire).runFrom default).1 =
        .ok (1, sampleReply boundary) := by
    rw [transmit, transmitFrom_answered received]
  have acceptable : (sampleReply boundary).IsAcceptable
      (signaturePolicy (sampleAnswered boundary) (sampleRequest samplePolicy))
      (sampleRequest samplePolicy).expected := by
    refine ⟨(by decide : 200 ≤ 200 ∧ 200 ≤ 299), _, decoded, ?_⟩
    rintro e ⟨⟩
    refine ⟨⟨?_, ?_⟩, _, rfl, rfl⟩
    · intro signed
      cases signed
    · intro required
      cases required
  obtain ⟨decides, -, -⟩ := execute_eq_ok_iff (c := sampleAnswered boundary)
    (r := sampleRequest samplePolicy) (fun _ _ _ => rfl) default
  obtain ⟨succeeds, -⟩ := decides _ 1 (sampleReply boundary) default
    (sampleRequest_isPrepared _ _ samplePolicy) (transmitted _)
  obtain ⟨answer, done⟩ := succeeds.mpr acceptable
  exact ⟨boundary, answer, decoded, done⟩

end Exchange

end Ebms
