import Ebms.Proofs.Exchange.Stages
import Ebms.Proofs.Exchange.Transmissions

/-! # What the observers are told

The observers of an exchange are told of its steps in an order that is fixed beforehand,
up to the number of retries and to what they are told of.  A run goes through this agenda
from the start, and it goes through all of it when it succeeds.  It ends at the first
notice that is refused, and the refusal is its result.  Rows of steps inherit this from
their steps. -/

set_option autoImplicit false

namespace Ebms

/-- A notice that is refused, other than one of a retry, is the last one, and the refusal
is the result. -/
def Observers.Heeded {α : Type} (o : Observers) (told : List Notice)
    (result : Except ExchangeError α) : Prop :=
  ∀ before notice after refusal, told = before ++ notice :: after → notice.slot ≠ .retry →
    o.reply notice = .error refusal →
      after = [] ∧ result = .error
        (match refusal with
          | .failure error => error
          | .other reason => .wrapped reason)

theorem Observers.heeded_nil {α : Type} (o : Observers) (result : Except ExchangeError α) :
    o.Heeded [] result := by
  intro before notice after refusal split
  simp at split

namespace Exchange

/-- Of the notices on an agenda, a row of steps gives those in `told`. -/
structure Tells {α : Type} (o : Observers) (agenda told : List Notice) (x : Exchange α)
    (j : Journal) : Prop where
  notices : (x.runFrom j).2.notices = j.notices ++ told
  planned : told <+: o.told agenda
  complete : ∀ value, (x.runFrom j).1 = .ok value → told = o.told agenda
  heeded : o.Heeded told (x.runFrom j).1

namespace Tells

variable {α β : Type} {o : Observers} {agenda first second told later : List Notice}
  {x : Exchange α} {next : α → Exchange β} {j k : Journal} {value : α} {error : ExchangeError}

theorem silent (kept : (x.runFrom j).2.notices = j.notices) : Tells o [] [] x j where
  notices := by rw [kept, List.append_nil]
  planned := List.nil_prefix
  complete := fun _ _ => rfl
  heeded := o.heeded_nil _

theorem failed (ran : x.runFrom j = (.error error, k)) (kept : k.notices = j.notices) :
    Tells o agenda [] x j where
  notices := by rw [ran, kept, List.append_nil]
  planned := List.nil_prefix
  complete := by
    intro value success
    rw [ran] at success
    cases success
  heeded := o.heeded_nil _

theorem observe (notice : Notice) :
    Tells o [notice] (o.told [notice]) (Exchange.observe o notice) j where
  notices := by rw [runFrom_observe]
  planned := List.prefix_rfl
  complete := fun _ _ => rfl
  heeded := by
    intro before other after refusal split fallible refused
    rw [Observers.told_singleton] at split
    rw [runFrom_observe, Observers.verdict]
    by_cases watched : o.watches notice.slot = true
    · rw [if_pos watched] at split
      cases before with
      | nil =>
          obtain ⟨rfl, rfl⟩ := List.cons.inj split
          rw [if_pos watched, refused]
          cases refusal <;> exact ⟨rfl, rfl⟩
      | cons first others => simp at split
    · rw [if_neg watched] at split
      simp at split

theorem congr {y : Exchange α} (same : x.runFrom j = y.runFrom k) (kept : k.notices = j.notices)
    (tells : Tells o agenda told y k) : Tells o agenda told x j where
  notices := by rw [same, tells.notices, kept]
  planned := tells.planned
  complete := by
    rw [same]
    exact tells.complete
  heeded := by
    rw [same]
    exact tells.heeded

theorem modify_bind {change : Journal → Journal} {next : Unit → Exchange β}
    (kept : (change j).notices = j.notices) (tells : Tells o agenda told (next ()) (change j)) :
    Tells o agenda told (modify change >>= next) j :=
  congr (runFrom_modify_bind change next j) kept tells

theorem bind_of_error (ran : x.runFrom j = (.error error, k)) (tells : Tells o first told x j)
    (second : List Notice) : Tells o (first ++ second) told (x >>= next) j := by
  have same : (x >>= next).runFrom j = (.error error, k) := runFrom_bind_of_error ran
  refine ⟨?_, ?_, ?_, ?_⟩
  · rw [same, ← tells.notices, ran]
  · rw [Observers.told_append]
    exact tells.planned.trans (List.prefix_append _ _)
  · intro value success
    rw [same] at success
    cases success
  · intro before notice after refusal split fallible refused
    have heeded := tells.heeded before notice after refusal split fallible refused
    rw [ran] at heeded
    rw [same]
    exact ⟨heeded.1, congrArg Except.error (Except.error.inj heeded.2)⟩

theorem bind_of_ok (ran : x.runFrom j = (.ok value, k)) (tells : Tells o first told x j)
    (follows : Tells o second later (next value) k) :
    Tells o (first ++ second) (told ++ later) (x >>= next) j := by
  have same : (x >>= next).runFrom j = (next value).runFrom k := runFrom_bind_of_ok ran
  have told_eq : told = o.told first := tells.complete value (by rw [ran])
  have between : k.notices = j.notices ++ told := by rw [← tells.notices, ran]
  refine ⟨?_, ?_, ?_, ?_⟩
  · rw [same, follows.notices, between, List.append_assoc]
  · -- Only a complete first part can be followed by anything.
    rw [Observers.told_append, told_eq]
    exact (List.prefix_append_right_inj _).mpr follows.planned
  · intro result success
    rw [same] at success
    rw [Observers.told_append, told_eq, follows.complete result success]
  · intro before notice after refusal split fallible refused
    rw [same]
    rcases List.append_eq_append_iff.mp split with ⟨between, -, within⟩ | ⟨rest, within, front⟩
    · exact follows.heeded between notice after refusal within fallible refused
    · cases rest with
      | nil => exact follows.heeded [] notice after refusal front.symm fallible refused
      | cons other others =>
          -- A notice that is refused by now is the end of the first steps.
          obtain ⟨rfl, -⟩ := List.cons.inj front
          have ended := (tells.heeded before notice others refusal within fallible refused).2
          rw [ran] at ended
          cases ended

theorem bind (tells : Tells o first told x j)
    (follows : ∀ value k, x.runFrom j = (.ok value, k) →
      ∃ later, Tells o second later (next value) k) :
    ∃ told, Tells o (first ++ second) told (x >>= next) j := by
  cases ran : x.runFrom j with
  | mk result k =>
      cases result with
      | error error => exact ⟨told, tells.bind_of_error ran second⟩
      | ok value =>
          obtain ⟨later, rest⟩ := follows value k ran
          exact ⟨told ++ later, tells.bind_of_ok ran rest⟩

theorem observe_bind {notice : Notice} {next : Unit → Exchange β}
    (follows : ∀ k, ∃ later, Tells o second later (next ()) k) :
    ∃ told, Tells o (notice :: second) told (Exchange.observe o notice >>= next) j :=
  bind (observe notice) fun _ k _ => follows k

theorem mem_agenda (tells : Tells o agenda told x j) {notice : Notice} (member : notice ∈ told) :
    notice ∈ agenda :=
  (List.mem_filter.mp (tells.planned.subset member)).1

end Tells

/-! ## The stages -/

def buildNotices (r : ExchangeRequest) (envelope : Envelope) : List Notice :=
  .built r.envelope :: if r.sign then [.signed envelope] else []

def deliveryNotices (wire : WireMessage) (response : Response) (answer : Answer) : List Notice :=
  .outgoing answer.requestMessageId wire.contentType wire.body ::
    .incoming answer.requestMessageId response.contentType response.body :: .response answer ::
      (answer.userMessage?.map fun message => .userMessage message answer.attachments).toList

variable {c : Circumstances} {r : ExchangeRequest} {wire : WireMessage} {response : Response}
  {answer : Answer}

theorem slot_of_mem_buildNotices {envelope : Envelope} {notice : Notice}
    (member : notice ∈ buildNotices r envelope) : notice.slot = .build := by
  rcases List.mem_cons.mp member with rfl | member
  · rfl
  · split at member
    · rw [List.mem_singleton.mp member]
      rfl
    · cases member

theorem signed_cases (c : Circumstances) (r : ExchangeRequest) :
    (r.sign = false ∧ ∀ j, (signed c r).runFrom j = (.ok r.envelope, j)) ∨
      (r.sign = true ∧ ∃ error, ∀ j, (signed c r).runFrom j = (.error error, j)) ∨
      (r.sign = true ∧ ∃ envelope, ∀ j, ∃ k, k.notices = j.notices ∧
        (signed c r).runFrom j =
          (observe r.observers (.signed envelope) >>= fun _ => pure envelope).runFrom k) := by
  unfold signed
  cases r.sign with
  | false => exact .inl ⟨rfl, fun _ => rfl⟩
  | true =>
      right
      simp only [if_true, true_and]
      cases r.credentials with
      | none => exact .inl ⟨_, fun _ => rfl⟩
      | some credentials =>
          cases made : r.envelope.sign c.suite credentials c.timeToLive c.signedAt with
          | error error =>
              simp only [made]
              exact .inl ⟨_, fun _ => rfl⟩
          | ok envelope =>
              simp only [made]
              exact .inr ⟨envelope, fun j =>
                ⟨{ j with counts := j.counts ++ [.of .signaturesCreated] }, rfl, rfl⟩⟩

theorem exists_tells_signed (c : Circumstances) (r : ExchangeRequest) :
    ∃ envelope, ∀ j,
      (∃ told, Tells r.observers (if r.sign then [.signed envelope] else []) told
        (signed c r) j) ∧
      ∀ given, ((signed c r).runFrom j).1 = .ok given → given = envelope := by
  rcases signed_cases c r with ⟨unsigned, ran⟩ | ⟨-, error, ran⟩ | ⟨sign, envelope, ran⟩
  · rw [unsigned]
    refine ⟨r.envelope, fun j => ⟨⟨[], Tells.silent (by rw [ran])⟩, fun given done => ?_⟩⟩
    rw [ran] at done
    exact (Except.ok.inj done).symm
  · refine ⟨r.envelope, fun j => ⟨⟨[], Tells.failed (ran j) rfl⟩, fun given done => ?_⟩⟩
    rw [ran] at done
    cases done
  · rw [sign]
    refine ⟨envelope, fun j => ?_⟩
    obtain ⟨k, kept, step⟩ := ran j
    have shows : ∃ told, Tells r.observers [.signed envelope] told
        (observe r.observers (.signed envelope) >>= fun _ => pure envelope) k :=
      Tells.observe_bind fun _ => ⟨[], Tells.silent rfl⟩
    obtain ⟨told, shows⟩ := shows
    refine ⟨⟨told, Tells.congr step kept shows⟩, fun given done => ?_⟩
    rw [step] at done
    obtain ⟨_, _, _, done⟩ := runFrom_bind_eq_ok done
    exact (Except.ok.inj done).symm

theorem exists_tells_prepare (c : Circumstances) (r : ExchangeRequest) :
    ∃ envelope, ∀ j,
      (∃ told, Tells r.observers (buildNotices r envelope) told (prepare c r) j) ∧
      ∀ wire, ((prepare c r).runFrom j).1 = .ok wire → wire = envelope.encode c.boundary := by
  obtain ⟨envelope, signs⟩ := exists_tells_signed c r
  refine ⟨envelope, fun j => ⟨?_, fun wire done => ?_⟩⟩
  · have after (k : Journal) : ∃ told, Tells r.observers
        ((if r.sign then [.signed envelope] else []) ++ []) told
        (signed c r >>= fun envelope =>
          retain .working (envelope.encode c.boundary).body >>= fun _ =>
            pure (envelope.encode c.boundary)) k := by
      obtain ⟨⟨told, shows⟩, -⟩ := signs k
      exact shows.bind fun _ _ _ => ⟨[], Tells.silent rfl⟩
    have before : ∃ told, Tells r.observers (buildNotices r envelope) told
        (observe r.observers (.built r.envelope) >>= fun _ => enter .signing >>= fun _ =>
          signed c r >>= fun envelope =>
            retain .working (envelope.encode c.boundary).body >>= fun _ =>
              pure (envelope.encode c.boundary)) { j with phase := .building } := by
      refine Tells.observe_bind fun k => ?_
      obtain ⟨told, shows⟩ := after { k with phase := .signing }
      rw [List.append_nil] at shows
      exact ⟨told, Tells.modify_bind rfl shows⟩
    obtain ⟨told, shows⟩ := before
    exact ⟨told, Tells.modify_bind rfl shows⟩
  · unfold prepare at done
    obtain ⟨_, _, _, done⟩ := runFrom_bind_eq_ok done
    obtain ⟨_, _, _, done⟩ := runFrom_bind_eq_ok done
    obtain ⟨_, k, _, done⟩ := runFrom_bind_eq_ok done
    obtain ⟨given, _, signing, done⟩ := runFrom_bind_eq_ok done
    obtain ⟨_, _, _, done⟩ := runFrom_bind_eq_ok done
    rw [← (signs k).2 given (congrArg Prod.fst signing)]
    exact (Except.ok.inj done).symm

theorem tells_transmit {causes : List TransportError} {ending : Ending} {j : Journal}
    (ran : (transmit c r wire).runFrom j = (ending.result (1 + causes.length),
      j.transmitted c r (transmissionOf r wire) ending 1 causes)) :
    Tells r.observers (retryNotices 1 (ending.paused causes))
      (r.observers.told (retryNotices 1 (ending.paused causes))) (transmit c r wire) j where
  notices := by rw [ran, Journal.notices_transmitted]
  planned := List.prefix_rfl
  complete := fun _ _ => rfl
  heeded := by
    intro before notice after refusal split fallible refused
    have member : notice ∈ r.observers.told (retryNotices 1 (ending.paused causes)) := by
      rw [split]
      exact List.mem_append_right _ List.mem_cons_self
    exact absurd (slot_of_mem_retryNotices (List.mem_filter.mp member).1) fallible

theorem exists_tells_deliver (r : ExchangeRequest) (wire : WireMessage) (response : Response)
    (answer : Answer) (j : Journal) :
    ∃ told, Tells r.observers (deliveryNotices wire response answer) told
      (deliver r wire response answer) j := by
  unfold deliver deliveryNotices
  refine Tells.observe_bind fun _ => ?_
  refine Tells.observe_bind fun _ => ?_
  refine Tells.observe_bind fun _ => ?_
  cases answer.userMessage? with
  | none => exact ⟨[], Tells.silent rfl⟩
  | some message => exact ⟨_, Tells.observe _⟩

theorem exists_tells_finish {attempts : Nat}
    (accepts : r.Accepts c attempts response answer) (wire : WireMessage) (j : Journal) :
    (∃ told, Tells r.observers (deliveryNotices wire response answer) told
        (finish c r wire (attempts, response)) j) ∧
      ∀ given, ((finish c r wire (attempts, response)).runFrom j).1 = .ok given →
        given = answer := by
  obtain ⟨k, step, kept, -⟩ := finish_of_accepts wire j accepts
  obtain ⟨_, tells⟩ := exists_tells_deliver r wire response answer k
  have all : ∃ told, Tells r.observers (deliveryNotices wire response answer ++ []) told
      (deliver r wire response answer >>= fun _ => pure answer) k :=
    tells.bind fun _ _ _ => ⟨[], Tells.silent rfl⟩
  obtain ⟨told, tells⟩ := all
  rw [List.append_nil] at tells
  refine ⟨⟨told, Tells.congr step kept tells⟩, fun given done => ?_⟩
  rw [step] at done
  obtain ⟨_, _, _, done⟩ := runFrom_bind_eq_ok done
  exact (Except.ok.inj done).symm

/-! ## The exchange -/

/-- All that an exchange tells of when nothing goes wrong. -/
def agenda (c : Circumstances) (r : ExchangeRequest) (envelope : Envelope)
    (causes : List TransportError) (response : Response) (answer : Answer) : List Notice :=
  buildNotices r envelope ++
    (retryNotices 1 causes ++ deliveryNotices (envelope.encode c.boundary) response answer)

structure IsTrace (c : Circumstances) (r : ExchangeRequest) (envelope : Envelope)
    (causes : List TransportError) (response : Response) (answer : Answer) (told : List Notice)
    (result : Except ExchangeError Answer) : Prop where
  ordered : told <+: r.observers.told (agenda c r envelope causes response answer)
  retried : (List.range' 1 causes.length).map c.received = causes.map .error
  delivered : ∀ notice ∈ told, notice.slot ≠ .build → notice.slot ≠ .retry →
    c.received (1 + causes.length) = .ok response ∧
      r.Accepts c (1 + causes.length) response answer
  once : ∀ slot, slot ≠ .build → slot ≠ .retry →
    told.countP (fun notice => notice.slot == slot) ≤ 1
  complete : ∀ given, result = .ok given →
    given = answer ∧ told = r.observers.told (agenda c r envelope causes response answer)
  consumed : ∀ given, result = .ok given →
    ((∃ notice ∈ told, notice.slot = .userMessage) ↔
      r.observers.watches .userMessage = true ∧ given.userMessage?.isSome = true)
  heeded : r.observers.Heeded told result

theorem countP_agenda_le (envelope : Envelope) (causes : List TransportError)
    {slot : ObserverSlot} (building : slot ≠ .build) (retrying : slot ≠ .retry) :
    (agenda c r envelope causes response answer).countP (fun notice => notice.slot == slot)
      ≤ 1 := by
  have built : (buildNotices r envelope).countP (fun notice => notice.slot == slot) = 0 := by
    refine List.countP_eq_zero.mpr fun notice member => ?_
    rw [slot_of_mem_buildNotices member]
    simpa using building.symm
  have retried : (retryNotices 1 causes).countP (fun notice => notice.slot == slot) = 0 := by
    refine List.countP_eq_zero.mpr fun notice member => ?_
    rw [slot_of_mem_retryNotices member]
    simpa using retrying.symm
  rw [agenda, List.countP_append, List.countP_append, built, retried]
  cases message : answer.userMessage? <;> cases slot <;>
    simp [deliveryNotices, message, Notice.slot]

theorem exists_userMessage_mem_agenda {envelope : Envelope} {causes : List TransportError} :
    (∃ notice ∈ agenda c r envelope causes response answer, notice.slot = .userMessage) ↔
      answer.userMessage?.isSome = true := by
  constructor
  · rintro ⟨notice, member, slot⟩
    rw [agenda, List.mem_append, List.mem_append] at member
    rcases member with built | retried | delivered
    · rw [slot_of_mem_buildNotices built] at slot
      cases slot
    · rw [slot_of_mem_retryNotices retried] at slot
      cases slot
    · cases message : answer.userMessage? with
      | none =>
          simp only [deliveryNotices, message, Option.map_none, Option.toList_none, List.mem_cons,
            List.not_mem_nil, or_false] at delivered
          rcases delivered with rfl | rfl | rfl <;> cases slot
      | some message => rfl
  · intro present
    obtain ⟨message, present⟩ := Option.isSome_iff_exists.mp present
    exact ⟨.userMessage message answer.attachments, by simp [agenda, deliveryNotices, present], rfl⟩

theorem Tells.isTrace {envelope : Envelope} {causes : List TransportError} {told : List Notice}
    {start : Journal}
    (tells : Tells r.observers (agenda c r envelope causes response answer) told (run c r) start)
    (retried : (List.range' 1 causes.length).map c.received = causes.map .error)
    (delivered : ∀ notice ∈ told, notice.slot ≠ .build → notice.slot ≠ .retry →
      c.received (1 + causes.length) = .ok response ∧
        r.Accepts c (1 + causes.length) response answer)
    (same : ∀ given, ((run c r).runFrom start).1 = .ok given → given = answer) :
    IsTrace c r envelope causes response answer told ((run c r).runFrom start).1 where
  ordered := tells.planned
  retried
  delivered
  once := by
    intro slot building retrying
    have part := tells.planned.sublist.trans List.filter_sublist
    exact Nat.le_trans part.countP_le (countP_agenda_le envelope causes building retrying)
  complete := by
    intro given success
    exact ⟨same given success, tells.complete given success⟩
  consumed := by
    intro given success
    rw [tells.complete given success, same given success, ← exists_userMessage_mem_agenda]
    constructor
    · rintro ⟨notice, member, slot⟩
      obtain ⟨planned, watched⟩ := List.mem_filter.mp member
      exact ⟨slot ▸ watched, notice, planned, slot⟩
    · rintro ⟨watched, notice, planned, slot⟩
      exact ⟨notice, List.mem_filter.mpr ⟨planned, slot.symm ▸ watched⟩, slot⟩
  heeded := tells.heeded

/-- An exchange tells of the message and of the retries, and then it fails, or whatever
finishing tells of comes after that. -/
theorem tells_or_finishes (c : Circumstances) (r : ExchangeRequest) (start : Journal) :
    ∃ envelope causes told,
      (∀ notice ∈ told, notice.slot = .build ∨ notice.slot = .retry) ∧
        (List.range' 1 causes.length).map c.received = causes.map .error ∧
        ((∃ error k, (run c r).runFrom start = (.error error, k) ∧
            ∀ rest, Tells r.observers (buildNotices r envelope ++ (retryNotices 1 causes ++ rest))
              told (run c r) start) ∨
          ∃ response k, c.received (1 + causes.length) = .ok response ∧
            (run c r).runFrom start =
              (finish c r (envelope.encode c.boundary) (1 + causes.length, response)).runFrom k ∧
            ∀ rest later, Tells r.observers rest later
                (finish c r (envelope.encode c.boundary) (1 + causes.length, response)) k →
              Tells r.observers (buildNotices r envelope ++ (retryNotices 1 causes ++ rest))
                (told ++ later) (run c r) start) := by
  obtain ⟨envelope, prepares⟩ := exists_tells_prepare c r
  obtain ⟨⟨built, builds⟩, made⟩ := prepares start
  have building : ∀ notice ∈ built, notice.slot = .build := by
    intro notice member
    exact slot_of_mem_buildNotices (builds.mem_agenda member)
  cases making : (prepare c r).runFrom start with
  | mk result j =>
      cases result with
      | error error =>
          refine ⟨envelope, [], built, fun notice member => .inl (building notice member), rfl,
            .inl ⟨error, j, run_of_prepare_error making, fun rest => ?_⟩⟩
          exact builds.bind_of_error making _
      | ok wire =>
          have encoded : wire = envelope.encode c.boundary := made wire (by rw [making])
          subst encoded
          obtain ⟨causes, ending, course, transmitted⟩ := transmitFrom_course (c := c) (r := r)
            (t := transmissionOf r (envelope.encode c.boundary)) 1 (r.retry.maxAttempts - 1) j
          have sends := tells_transmit transmitted
          have early : ∀ notice ∈ built ++ r.observers.told (retryNotices 1 (ending.paused causes)),
              notice.slot = .build ∨ notice.slot = .retry := by
            intro notice member
            rcases List.mem_append.mp member with earlier | later
            · exact .inl (building notice earlier)
            · exact .inr (slot_of_mem_retryNotices (sends.mem_agenda later))
          refine ⟨envelope, ending.paused causes, _, early, course.paused_failed, ?_⟩
          cases ending with
          | answered response =>
              refine .inr ⟨response, _, course.last, run_of_transmit_ok making transmitted, ?_⟩
              intro rest later finishes
              rw [List.append_assoc]
              exact builds.bind_of_ok making (sends.bind_of_ok transmitted finishes)
          | failed cause =>
              refine .inl ⟨_, _, run_of_transmit_error making transmitted, fun rest => ?_⟩
              exact builds.bind_of_ok making (sends.bind_of_error transmitted rest)
          | cancelled cause =>
              refine .inl ⟨_, _, run_of_transmit_error making transmitted, fun rest => ?_⟩
              exact builds.bind_of_ok making (sends.bind_of_error transmitted rest)

theorem exists_isTrace_run (c : Circumstances) (r : ExchangeRequest) (start : Journal) :
    ∃ envelope causes response answer told,
      ((run c r).runFrom start).2.notices = start.notices ++ told ∧
        IsTrace c r envelope causes response answer told ((run c r).runFrom start).1 := by
  obtain ⟨envelope, causes, told, early, retried, ended⟩ := tells_or_finishes c r start
  rcases ended with ⟨error, k, ran, tells⟩ | ⟨response, k, received, ran, tells⟩
  · have all := tells (deliveryNotices (envelope.encode c.boundary) default default)
    refine ⟨envelope, causes, default, default, told, all.notices, all.isTrace retried ?_ ?_⟩
    · intro notice member notBuilt notRetried
      exact absurd (early notice member) (not_or.mpr ⟨notBuilt, notRetried⟩)
    · intro given done
      rw [ran] at done
      cases done
  · by_cases acceptable : ∃ answer, r.Accepts c (1 + causes.length) response answer
    · obtain ⟨answer, accepts⟩ := acceptable
      obtain ⟨⟨later, finishes⟩, same⟩ := exists_tells_finish accepts (envelope.encode c.boundary) k
      have all := tells _ later finishes
      refine ⟨envelope, causes, response, answer, _, all.notices, all.isTrace retried ?_ ?_⟩
      · intro notice member notBuilt notRetried
        exact ⟨received, accepts⟩
      · intro given done
        rw [ran] at done
        exact same given done
    · obtain ⟨error, last, failed, kept⟩ := finish_of_not_accepts c r (envelope.encode c.boundary)
        (1 + causes.length) response k (not_exists.mp acceptable)
      have all := tells (deliveryNotices (envelope.encode c.boundary) response default) []
        (Tells.failed failed kept)
      refine ⟨envelope, causes, response, default, _, all.notices, all.isTrace retried ?_ ?_⟩
      · intro notice member notBuilt notRetried
        rw [List.append_nil] at member
        exact absurd (early notice member) (not_or.mpr ⟨notBuilt, notRetried⟩)
      · intro given done
        rw [ran, failed] at done
        cases done

theorem phase_run {start : Journal} (done : ((run c r).runFrom start).1 = .ok answer) :
    ((run c r).runFrom start).2.phase = .done := by
  obtain ⟨envelope, causes, told, -, -, ended⟩ := tells_or_finishes c r start
  rcases ended with ⟨error, k, ran, -⟩ | ⟨response, k, -, ran, -⟩
  · rw [ran] at done
    cases done
  · rw [ran] at done ⊢
    exact phase_finish done

/-- The observers of an exchange are told in order, up to the first refusal, and in the
end the exchange is done or has failed. -/
theorem execute_isTrace (c : Circumstances) (r : ExchangeRequest) (start : Journal) :
    (∃ envelope causes response answer told,
      (execute c r start).2.notices = start.notices ++ told ∧
        IsTrace c r envelope causes response answer told (execute c r start).1) ∧
      (∀ answer, (execute c r start).1 = .ok answer → (execute c r start).2.phase = .done) ∧
      ∀ error, (execute c r start).1 = .error error → (execute c r start).2.phase = .failed := by
  refine ⟨exists_isTrace_run c r start, ?_, ?_⟩
  · intro answer done
    rw [execute_eq] at done ⊢
    rw [done]
    exact phase_run done
  · intro error failed
    rw [execute_eq] at failed ⊢
    rw [failed]
    rfl

end Exchange

end Ebms
