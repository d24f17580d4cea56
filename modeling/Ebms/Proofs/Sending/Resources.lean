import Ebms.Proofs.Exchange.Acceptance
import Ebms.Proofs.Exchange.Retained
import Ebms.Sending.Sender

/-! # The resources of a sending

An exchange acquires a resource for the body of its message and another one for the body
of the response, and nothing else.  A sending closes the scope of its exchange at the end,
which releases what the scope holds and removes its files.  That is all that was acquired,
wherever the exchange ended and whatever the disk refused, so nothing is left over. -/

set_option autoImplicit false

namespace Ebms

/-- The transmissions of an exchange bring a response: the last attempt does, and there
is no cancellation before it. -/
def Circumstances.Answers (c : Circumstances) (retry : RetryPolicy) (response : Response) : Prop :=
  ∃ attempt, c.IsLast retry attempt ∧ c.received attempt = .ok response ∧
    ∀ i, 1 ≤ i → i < attempt → c.cancelled i = false

inductive ExchangeRequest.Retains (c : Circumstances) (r : ExchangeRequest) :
    List Bytes → Prop where
  /-- It fails before its message is encoded. -/
  | unsent (unprepared : ∀ envelope, ¬ r.IsPrepared c envelope) : Retains c r []
  | unanswered {envelope : Envelope} (prepared : r.IsPrepared c envelope)
      (unanswered : ∀ response, ¬ c.Answers r.retry response) :
      Retains c r [(envelope.encode c.boundary).body]
  | answered {envelope : Envelope} {response : Response} (prepared : r.IsPrepared c envelope)
      (answered : c.Answers r.retry response) :
      Retains c r [(envelope.encode c.boundary).body, response.body]

namespace Sender

def requestOf (s : Sender) (o : Occasion) (draft : Draft) :
    Except ValidationError ExchangeRequest :=
  match s.prepare o draft with
  | .error error => .error error
  | .ok draft =>
    match endpointOf draft with
    | .error error => .error error
    | .ok endpoint => .ok (s.request o draft endpoint)

/-- The bodies that a sending retains: those of its exchange, if there is one. -/
def Retains (s : Sender) (o : Occasion) (draft : Draft) (bodies : List Bytes) : Prop :=
  match s.requestOf o draft with
  | .error _ => bodies = []
  | .ok r => r.Retains (s.circumstances o) bodies

end Sender

/-! ## Scopes and trackers -/

/-- A tracker after some bodies went to a scope of a threshold and left it again. -/
def Tracker.after (t : Tracker) (threshold : Nat) (bodies : List Bytes) : Tracker :=
  { acquired := t.acquired + bodies.length
    released := t.released + bodies.length
    spooled := t.spooled + bodies.countP (threshold < ·.length)
    spoolRemoved := t.spoolRemoved + bodies.countP (threshold < ·.length) }

theorem Tracker.outstanding_after (t : Tracker) (threshold : Nat) (bodies : List Bytes) :
    (t.after threshold bodies).outstanding = t.outstanding :=
  Nat.add_sub_add_right _ _ _

theorem Tracker.outstandingSpooled_after (t : Tracker) (threshold : Nat) (bodies : List Bytes) :
    (t.after threshold bodies).outstandingSpooled = t.outstandingSpooled :=
  Nat.add_sub_add_right _ _ _

def Holding.retainAll (h : Holding) (bodies : List Bytes) : Holding := bodies.foldl .retain h

/-- Bodies that a scope retains are counted, and the large ones lie in new files behind the
ones that exist. -/
theorem KeptScope.exists_retainAll (s : KeptScope) (tracker : Tracker) (folder : SpoolFolder)
    (bodies : List Bytes) :
    ∃ kept later, (s.holding tracker folder).retainAll bodies =
        ({ s with held := s.held ++ kept } : KeptScope).holding
          { tracker with
            acquired := tracker.acquired + bodies.length
            spooled := tracker.spooled + bodies.countP (s.threshold < ·.length) } later ∧
      later.files = folder.files ++ Kept.entries kept ∧ kept.length = bodies.length ∧
      (Kept.entries kept).length = bodies.countP (s.threshold < ·.length) := by
  induction bodies generalizing s tracker folder with
  | nil => exact ⟨[], folder, by simp [Holding.retainAll], by simp [Kept.entries], rfl, rfl⟩
  | cons body bodies inductionHypothesis =>
      let k := s.keep folder.nextName body
      have step : (s.holding tracker folder).retainAll (body :: bodies) =
          ((s.add k).holding (tracker.acquire k.file.isSome)
            (if s.threshold < body.length then folder.create body else folder)).retainAll
              bodies := by
        rw [Holding.retainAll, List.foldl_cons, s.retain_holding]
        rfl
      obtain ⟨kept, later, ran, files, count, fileCount⟩ := inductionHypothesis (s.add k)
        (tracker.acquire k.file.isSome)
        (if s.threshold < body.length then folder.create body else folder)
      refine ⟨k :: kept, later, ?_, ?_, by rw [List.length_cons, count, List.length_cons], ?_⟩
      · rw [step, ran]
        by_cases large : s.threshold < body.length <;>
          simp [KeptScope.holding, KeptScope.add, KeptScope.scope, Tracker.acquire, k,
            KeptScope.keep, large] <;> omega
      · rw [files, Kept.entries_cons, ← List.append_assoc]
        by_cases large : s.threshold < body.length <;>
          simp [k, KeptScope.keep, Kept.spoolFile?, SpoolFolder.create, large]
      · rw [Kept.entries_cons, List.length_append, fileCount, List.countP_cons]
        by_cases large : s.threshold < body.length <;>
          simp [k, KeptScope.keep, KeptScope.add, Kept.spoolFile?, large, Nat.add_comm]

/-- A scope that is closed leaves the folder as it was when the scope was opened. -/
theorem Holding.close_retainAll (tracker : Tracker) (folder : SpoolFolder) (threshold : Nat)
    (bodies : List Bytes) :
    ((opened tracker folder threshold).retainAll bodies).close.tracker =
        tracker.after threshold bodies ∧
      ((opened tracker folder threshold).retainAll bodies).close.folder.files = folder.files := by
  let s : KeptScope := { threshold, held := [] }
  obtain ⟨kept, later, ran, files, count, fileCount⟩ := s.exists_retainAll tracker folder bodies
  have start : opened tracker folder threshold = s.holding tracker folder := rfl
  rw [start, ran, KeptScope.close_holding]
  constructor
  · simp [opened, Tracker.after, s, count, fileCount]
  · exact SpoolFolder.files_without_last files

/-! ## The exchange -/

namespace Exchange

variable {disk : Disk} {c : Circumstances} {r : ExchangeRequest} {envelope : Envelope}
  {wire : WireMessage} {response : Response} {j k : Journal}

theorem transmit_eq_ok_of_answers (answers : c.Answers r.retry response) (wire : WireMessage)
    (j : Journal) :
    ∃ attempts, ((transmit c r wire).runFrom j).1 = .ok (attempts, response) := by
  obtain ⟨last, isLast, received, going⟩ := answers
  obtain ⟨causes, ending, course, ran⟩ := transmitFrom_course (c := c) (r := r)
    (t := transmissionOf r wire) 1 (r.retry.maxAttempts - 1) j
  rw [transmit, ran]
  have completed : ∀ cause, ending ≠ .cancelled cause := by
    rintro cause rfl
    have cancelled : c.cancelled (1 + causes.length) = true := course.stops.2.2
    rw [going _ (by omega) (course.cancelled_before_last isLast)] at cancelled
    cases cancelled
  have brought := course.last
  rw [(course.isLast completed).unique isLast, received] at brought
  cases ending with
  | answered given =>
      cases brought
      exact ⟨_, rfl⟩
  | failed cause => cases brought
  | cancelled cause => cases brought

theorem keeps_held_drafted : Keeps (drafted c r) Journal.held := by
  refine Keeps.bind (Keeps.modify fun j => rfl) fun _ => ?_
  refine Keeps.bind (Keeps.observe fun j => rfl) fun _ => ?_
  refine Keeps.bind (Keeps.modify fun j => rfl) fun _ => ?_
  exact keeps_signed (fun _ _ _ => rfl) fun _ => rfl

inductive PreparesTo (disk : Disk) (c : Circumstances) (r : ExchangeRequest) (j : Journal) :
    Except ExchangeError KeptMessage × Journal → Prop where
  | unprepared {error : ExchangeError} {k : Journal}
      (unprepared : ∀ envelope, ¬ r.IsPrepared c envelope) (same : k.held = j.held) :
      PreparesTo disk c r j (.error error, k)
  | refused {envelope : Envelope} {ran : Except ExchangeError KeptMessage × Journal}
      (prepared : r.IsPrepared c envelope) (refused : IsRefused disk j ran) :
      PreparesTo disk c r j ran
  | kept {envelope : Envelope} {handle : Nat} {k : Journal} (prepared : r.IsPrepared c envelope)
      (held : k.held = j.held.retain (envelope.encode c.boundary).body)
      (reads : k.held.Reads handle (envelope.encode c.boundary).body) :
      PreparesTo disk c r j (.ok ⟨(envelope.encode c.boundary).contentType, handle⟩, k)

theorem preparesTo_prepareKept (disk : Disk) (c : Circumstances) (r : ExchangeRequest)
    (j : Journal) : PreparesTo disk c r j ((prepareKept disk c r).runFrom j) := by
  have same := keeps_held_drafted (c := c) (r := r) j
  rw [prepareKept_eq]
  cases made : (drafted c r).runFrom j with
  | mk result k =>
      rw [made] at same
      cases result with
      | error error =>
          rw [runFrom_bind_of_error made]
          refine .unprepared (fun envelope prepared => ?_) same
          obtain ⟨_, done⟩ := exists_prepare prepared j
          rw [prepare_eq, runFrom_bind_of_error made] at done
          cases done
      | ok envelope =>
          have done : ((prepare c r).runFrom j).1 = .ok (envelope.encode c.boundary) := by
            rw [prepare_eq, runFrom_bind_of_ok made,
              runFrom_bind_of_ok (runFrom_retain_working _ k), runFrom_pure]
          obtain ⟨given, prepared, encoded⟩ := isPrepared_of_prepare_eq_ok done
          rw [runFrom_bind_of_ok made, encoded]
          have kept := runFrom_retain disk (given.encode c.boundary).body k
          cases fault : disk.retainFault? k (given.encode c.boundary).body with
          | some reason =>
              rw [fault] at kept
              rw [runFrom_bind_of_error kept]
              exact .refused prepared ⟨reason, disk.refuses_of_retainFault? fault, rfl, same⟩
          | none =>
              rw [fault] at kept
              rw [runFrom_bind_of_ok kept, runFrom_pure]
              exact .kept prepared (congrArg (Holding.retain · _) same) (k.held.reads_retain _)

theorem finishKept_cases (disk : Disk) (message : KeptMessage) (answered : Nat × Response)
    (j : Journal) :
    ((finishKept disk c r message answered).runFrom j).2.held = j.held.retain answered.2.body ∨
      IsRefused disk j ((finishKept disk c r message answered).runFrom j) := by
  let waiting : Journal := { j with phase := .awaitingResponse }
  have kept := runFrom_retain disk answered.2.body waiting
  unfold finishKept enter
  rw [runFrom_modify_bind]
  cases fault : disk.retainFault? waiting answered.2.body with
  | some reason =>
      rw [fault] at kept
      rw [runFrom_bind_of_error kept]
      exact .inr ⟨reason, disk.refuses_of_retainFault? fault, rfl, rfl⟩
  | none =>
      rw [fault] at kept
      rw [runFrom_bind_of_ok kept]
      left
      have delivers (response : Response) (answer : Answer) :
          Keeps (deliverKept disk r message response answer) Journal.held := by
        unfold deliverKept
        split
        · exact Keeps.bind (Keeps.fetch disk _) fun _ => keeps_deliver fun _ _ _ _ => rfl
        · exact Keeps.bind (Keeps.pure _) fun _ => keeps_deliver fun _ _ _ _ => rfl
      refine Keeps.bind (Keeps.fetch disk _) (fun body => ?_) (waiting.retained answered.2.body)
      refine Keeps.bind (keeps_accept fun _ _ => rfl) fun answer => ?_
      refine Keeps.bind (Keeps.modify fun _ => rfl) fun _ => ?_
      exact Keeps.bind (delivers _ answer) fun _ => Keeps.pure _

/-- The bodies that an exchange retains on a disk: all that are to be retained, or the first of
them if the exchange fails for what the disk refuses. -/
def RetainsUntil (disk : Disk) (result : Except ExchangeError Answer)
    (toRetain : List Bytes → Prop) (bodies : List Bytes) : Prop :=
  toRetain bodies ∨ ∃ reason more, disk.Refuses reason ∧ result = .error (.wrapped reason) ∧
    toRetain (bodies ++ more)

theorem exists_retains_prepared (prepared : r.IsPrepared c envelope) :
    ∃ more, r.Retains c ((envelope.encode c.boundary).body :: more) := by
  by_cases answered : ∃ response, c.Answers r.retry response
  · obtain ⟨response, answered⟩ := answered
    exact ⟨_, .answered prepared answered⟩
  · exact ⟨[], .unanswered prepared (not_exists.mp answered)⟩

/-- Once its message is retained, an exchange retains at most the body of the response. -/
theorem exists_retains_of_kept {start : Holding} {handle : Nat} (disk : Disk)
    (prepared : r.IsPrepared c envelope)
    (held : j.held = start.retain (envelope.encode c.boundary).body)
    (reads : j.held.Reads handle (envelope.encode c.boundary).body) :
    let message : KeptMessage := ⟨(envelope.encode c.boundary).contentType, handle⟩
    let ran := (transmitKeptFrom disk c r message 1 (r.retry.maxAttempts - 1) >>=
      finishKept disk c r message).runFrom j
    ∃ bodies, ran.2.held = start.retainAll bodies ∧
      RetainsUntil disk ran.1 (r.Retains c) bodies := by
  intro message ran
  let wire := envelope.encode c.boundary
  have unchanged := keeps_transmitFrom c r (transmissionOf r wire) 1 (r.retry.maxAttempts - 1) j
  rcases transmitKeptFrom_cases disk c r message reads 1 (r.retry.maxAttempts - 1) with
    agrees | refused
  · cases sending : (transmit c r wire).runFrom j with
    | mk result k =>
        rw [transmit] at sending
        rw [sending] at unchanged agrees
        have same : k.held = start.retainAll [wire.body] := unchanged.trans held
        cases result with
        | error error =>
            simp only [ran, runFrom_bind_of_error agrees]
            refine ⟨_, same, .inl (.unanswered prepared fun response answers => ?_)⟩
            obtain ⟨attempts, done⟩ := transmit_eq_ok_of_answers answers wire j
            rw [transmit, sending] at done
            cases done
        | ok answered =>
            have sent : ((transmit c r wire).runFrom j).1 = .ok answered :=
              congrArg Prod.fst sending
            obtain ⟨isLast, received, going⟩ := of_transmit_eq_ok sent
            have retains : r.Retains c [wire.body, answered.2.body] :=
              .answered prepared ⟨answered.1, isLast, received, going⟩
            simp only [ran, runFrom_bind_of_ok agrees]
            rcases finishKept_cases disk message answered k with
              finished | ⟨reason, refuses, failed, stays⟩
            · refine ⟨_, ?_, .inl retains⟩
              rw [finished, same]
              rfl
            · exact ⟨_, stays.trans same, .inr ⟨reason, _, refuses, failed, retains⟩⟩
  · obtain ⟨reason, refuses, failed, same⟩ := refused.bind
    obtain ⟨more, retains⟩ := exists_retains_prepared prepared
    exact ⟨[wire.body], same.trans held, .inr ⟨reason, more, refuses, failed, retains⟩⟩

/-- At the end of an exchange its scope holds what the exchange has retained. -/
theorem exists_retains_runKept (disk : Disk) (c : Circumstances) (r : ExchangeRequest)
    (start : Journal) :
    ∃ bodies, ((runKept disk c r).runFrom start).2.held = start.held.retainAll bodies ∧
      RetainsUntil disk ((runKept disk c r).runFrom start).1 (r.Retains c) bodies := by
  have prepares := preparesTo_prepareKept disk c r start
  unfold runKept
  cases ran : (prepareKept disk c r).runFrom start with
  | mk result j =>
      rw [ran] at prepares
      cases prepares with
      | @unprepared error j unprepared same =>
          rw [runFrom_bind_of_error ran]
          exact ⟨[], same, .inl (.unsent unprepared)⟩
      | @refused envelope _ prepared refused =>
          rw [← ran] at refused
          obtain ⟨reason, refuses, failed, same⟩ := refused.bind
          obtain ⟨more, retains⟩ := exists_retains_prepared prepared
          exact ⟨[], same, .inr ⟨reason, _, refuses, failed, retains⟩⟩
      | @kept envelope handle j prepared held reads =>
          rw [runFrom_bind_of_ok ran]
          exact exists_retains_of_kept disk prepared held reads

end Exchange

/-! ## The sending -/

namespace Sender

theorem send_eq (s : Sender) (o : Occasion) (disk : Disk) (tracker : Tracker)
    (folder : SpoolFolder) (draft : Draft) :
    s.send o disk tracker folder draft =
      match s.requestOf o draft with
      | .error error => refused (.opened tracker folder s.spoolThreshold) error
      | .ok r => s.exchange o disk (Journal.start (.opened tracker folder s.spoolThreshold)) r := by
  unfold send requestOf
  cases s.prepare o draft with
  | error error => simp only
  | ok ready => cases found : endpointOf ready <;> simp only [found]

/-- A sending leaves nothing behind, whatever becomes of it: what it has acquired is released
and the spool files are those that were there before.  It has acquired as much as the bodies
that it came to retain, fewer than it was to retain only if it failed for what the disk
refused. -/
theorem send_releases (s : Sender) (o : Occasion) (disk : Disk) (tracker : Tracker)
    (folder : SpoolFolder) (draft : Draft) :
    let sent := s.send o disk tracker folder draft
    sent.journal.held.tracker.outstanding = tracker.outstanding ∧
      sent.journal.held.tracker.outstandingSpooled = tracker.outstandingSpooled ∧
      sent.journal.held.folder.files = folder.files ∧
      ∃ bodies, sent.journal.held.tracker = tracker.after s.spoolThreshold bodies ∧
        Exchange.RetainsUntil disk sent.result (s.Retains o draft) bodies := by
  intro sent
  have left : ∃ bodies,
      sent.journal.held = ((Holding.opened tracker folder s.spoolThreshold).retainAll bodies).close ∧
        Exchange.RetainsUntil disk sent.result (s.Retains o draft) bodies := by
    simp only [sent, send_eq]
    unfold Retains
    cases s.requestOf o draft with
    | error error => exact ⟨[], rfl, .inl rfl⟩
    | ok r =>
        obtain ⟨bodies, held, retains⟩ := Exchange.exists_retains_runKept disk
          (s.circumstances o) r (Journal.start (.opened tracker folder s.spoolThreshold))
        exact ⟨bodies, congrArg Holding.close held, retains⟩
  obtain ⟨bodies, held, retains⟩ := left
  obtain ⟨after, files⟩ := Holding.close_retainAll tracker folder s.spoolThreshold bodies
  rw [held, after]
  exact ⟨tracker.outstanding_after _ _, tracker.outstandingSpooled_after _ _, files, bodies, rfl,
    retains⟩

end Sender

end Ebms
