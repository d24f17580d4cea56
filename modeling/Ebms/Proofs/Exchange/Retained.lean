import Ebms.Exchange.Retained
import Ebms.Proofs.Exchange.Stages
import Ebms.Proofs.Exchange.Transmissions
import Ebms.Proofs.Resources

/-! # Reading bodies back

A scope gives back what was retained in it, whether it lies in memory or in a spool file,
and whatever is retained after it.  An exchange retains, and does nothing else to its
scope.  So the transmissions of the exchange that reads its bodies back from the scope are
those of the exchange that carries them along, unless the disk refuses to read; and on a
disk that works the two exchanges are the same. -/

set_option autoImplicit false

namespace Ebms

/-! ## Scopes -/

theorem SpoolFolder.read?_create {f : SpoolFolder} {name : Nat} {data : Bytes}
    (found : f.read? name = some data) (other : Bytes) :
    (f.create other).read? name = some data := by
  obtain ⟨before, after, split, earlier⟩ := List.lookup_eq_some_iff.mp found
  refine List.lookup_eq_some_iff.mpr ⟨before, after ++ [(f.nextName, other)], ?_, earlier⟩
  simp [create, split]

namespace Scope

variable {s : Scope} {folder : SpoolFolder} {storage : Storage} {data : Bytes}

theorem read?_store (s : Scope) (folder : SpoolFolder) (data : Bytes) :
    (s.store folder data).1.read? (s.store folder data).2 = some data := by
  unfold store
  split
  · exact SpoolFolder.read?_eq_some (List.mem_append_right _ (List.mem_singleton.mpr rfl))
  · rfl

theorem read?_of_store (found : storage.read? folder = some data) (other : Bytes) :
    storage.read? (s.store folder other).2 = some data := by
  unfold store
  split
  · cases storage with
    | memory kept => exact found
    | spooled name => exact SpoolFolder.read?_create found other
  · exact found

theorem read_eq_ok_iff {handle : Nat} {resource : Resource} :
    s.read folder handle = .ok resource ↔ ∃ storage, s.held[handle]? = some storage ∧
      storage.read? folder = some resource.data ∧ storage.isSpooled = resource.isSpooled := by
  unfold read
  cases here : s.held[handle]? with
  | none => simp
  | some storage =>
      cases found : storage.read? folder with
      | none => simp [found]
      | some data =>
          obtain ⟨expected, spooled⟩ := resource
          simp [found]

end Scope

def Holding.Reads (h : Holding) (handle : Nat) (body : Bytes) : Prop :=
  ∃ resource, h.read handle = .ok resource ∧ resource.data = body

theorem Holding.reads_retain (h : Holding) (body : Bytes) :
    (h.retain body).Reads h.scope.held.length body := by
  have stored := h.scope.read?_store h.folder body
  refine ⟨⟨body, (h.scope.store h.folder body).1.isSpooled⟩, ?_, rfl⟩
  exact Scope.read_eq_ok_iff.mpr ⟨_, List.getElem?_concat_length, stored, rfl⟩

theorem Holding.Reads.retain {h : Holding} {handle : Nat} {body : Bytes}
    (reads : h.Reads handle body) (other : Bytes) : (h.retain other).Reads handle body := by
  obtain ⟨resource, found, same⟩ := reads
  obtain ⟨storage, here, readable, spooled⟩ := Scope.read_eq_ok_iff.mp found
  obtain ⟨inside, -⟩ := List.getElem?_eq_some_iff.mp here
  refine ⟨resource, Scope.read_eq_ok_iff.mpr ⟨storage, ?_, ?_, spooled⟩, same⟩
  · exact (List.getElem?_append_left inside).trans here
  · exact Scope.read?_of_store readable other

/-! ## Disks -/

def Disk.Refuses (disk : Disk) (reason : String) : Prop :=
  ∃ j, disk.writeFault? j = some reason ∨ disk.readFault? j = some reason

theorem Disk.not_refuses_working (reason : String) : ¬ Disk.working.Refuses reason := by
  rintro ⟨_, fault | fault⟩ <;> cases fault

theorem Disk.refuses_of_retainFault? {disk : Disk} {j : Journal} {body : Bytes} {reason : String}
    (fault : disk.retainFault? j body = some reason) : disk.Refuses reason :=
  ⟨j, .inl (Option.filter_eq_some_iff.mp fault).1⟩

namespace Exchange

variable {c : Circumstances} {r : ExchangeRequest} {message : KeptMessage} {body : Bytes}
  {response : Response} {answer : Answer} {j k : Journal}

/-- Steps that the disk has stopped, while the resources were as before. -/
def IsRefused {α : Type} (disk : Disk) (j : Journal) (ran : Except ExchangeError α × Journal) :
    Prop :=
  ∃ reason, disk.Refuses reason ∧ ran.1 = .error (.wrapped reason) ∧ ran.2.held = j.held

theorem not_isRefused_working {α : Type} (ran : Except ExchangeError α × Journal) :
    ¬ IsRefused .working j ran := by
  rintro ⟨reason, refuses, -⟩
  exact Disk.not_refuses_working reason refuses

theorem IsRefused.bind {α β : Type} {disk : Disk} {x : Exchange α} {next : α → Exchange β}
    (refused : IsRefused disk j (x.runFrom j)) : IsRefused disk j ((x >>= next).runFrom j) := by
  obtain ⟨reason, refuses, failed, held⟩ := refused
  cases ran : x.runFrom j with
  | mk result k =>
      rw [ran] at failed held
      obtain rfl : result = .error (.wrapped reason) := failed
      rw [runFrom_bind_of_error ran]
      exact ⟨reason, refuses, rfl, held⟩

theorem IsRefused.of_held {α : Type} {disk : Disk} {ran : Except ExchangeError α × Journal}
    (refused : IsRefused disk k ran) (same : k.held = j.held) : IsRefused disk j ran := by
  obtain ⟨reason, refuses, failed, held⟩ := refused
  exact ⟨reason, refuses, failed, held.trans same⟩

theorem fetch_cases (disk : Disk) {handle : Nat} (reads : j.held.Reads handle body) :
    (fetch disk handle).runFrom j = (.ok body, j) ∨
      IsRefused disk j ((fetch disk handle).runFrom j) := by
  obtain ⟨resource, found, rfl⟩ := reads
  rw [fetch, runFrom_get_bind]
  simp only [found]
  cases fault : disk.fetchFault? j resource with
  | none => exact .inl rfl
  | some reason =>
      exact .inr ⟨reason, ⟨j, .inr (Option.filter_eq_some_iff.mp fault).1⟩, rfl, rfl⟩

theorem runFrom_fetch_working {handle : Nat} (reads : j.held.Reads handle body) :
    (fetch .working handle).runFrom j = (.ok body, j) :=
  (fetch_cases .working reads).resolve_right (not_isRefused_working _)

/-! ## The stages -/

def drafted (c : Circumstances) (r : ExchangeRequest) : Exchange Envelope := do
  enter .building
  observe r.observers (.built r.envelope)
  enter .signing
  signed c r

theorem prepare_eq (c : Circumstances) (r : ExchangeRequest) :
    prepare c r = drafted c r >>= fun envelope =>
      retain .working (envelope.encode c.boundary).body >>= fun _ =>
        pure (envelope.encode c.boundary) := by
  simp only [prepare, drafted, bind_assoc]

theorem prepareKept_eq (disk : Disk) (c : Circumstances) (r : ExchangeRequest) :
    prepareKept disk c r = drafted c r >>= fun envelope =>
      retain disk (envelope.encode c.boundary).body >>= fun handle =>
        pure ⟨(envelope.encode c.boundary).contentType, handle⟩ := by
  simp only [prepareKept, drafted, bind_assoc]

theorem prepareKept_cases (c : Circumstances) (r : ExchangeRequest) (j : Journal) :
    (∃ error k, (prepare c r).runFrom j = (.error error, k) ∧
        (prepareKept .working c r).runFrom j = (.error error, k)) ∨
      ∃ wire handle k, (prepare c r).runFrom j = (.ok wire, k) ∧
        (prepareKept .working c r).runFrom j = (.ok ⟨wire.contentType, handle⟩, k) ∧
        k.held.Reads handle wire.body := by
  rw [prepare_eq, prepareKept_eq]
  cases made : (drafted c r).runFrom j with
  | mk result k =>
      cases result with
      | error error =>
          exact .inl ⟨error, k, runFrom_bind_of_error made, runFrom_bind_of_error made⟩
      | ok envelope =>
          let wire := envelope.encode c.boundary
          have kept := runFrom_retain_working wire.body k
          refine .inr ⟨wire, k.held.scope.held.length, k.retained wire.body, ?_, ?_,
            k.held.reads_retain wire.body⟩
          · rw [runFrom_bind_of_ok made, runFrom_bind_of_ok kept, runFrom_pure]
          · rw [runFrom_bind_of_ok made, runFrom_bind_of_ok kept, runFrom_pure]

theorem attemptKept_cases (disk : Disk) (reads : j.held.Reads message.handle body)
    (attempt : Nat) :
    (attemptKept disk c r message attempt).runFrom j =
        (attemptOnce c (transmissionOf r ⟨message.contentType, body⟩) attempt).runFrom j ∨
      IsRefused disk j ((attemptKept disk c r message attempt).runFrom j) := by
  let still : Journal :=
    { j with phase := .transmitting, counts := j.counts ++ [.of .transmitAttempts] }
  have reading : still.held.Reads message.handle body := reads
  unfold attemptKept attemptOnce enter count
  rw [runFrom_modify_bind, runFrom_modify_bind, runFrom_modify_bind, runFrom_modify_bind]
  rcases fetch_cases disk reading with read | refused
  · left
    rw [runFrom_bind_of_ok read]
  · exact .inr (refused.bind.of_held rfl)

/-- The attempts are made with the body that was retained, as long as the disk does not refuse
to read it. -/
theorem transmitKeptFrom_cases (disk : Disk) (c : Circumstances) (r : ExchangeRequest)
    (message : KeptMessage) (reads : j.held.Reads message.handle body) (first left : Nat) :
    (transmitKeptFrom disk c r message first left).runFrom j =
        (transmitFrom c r (transmissionOf r ⟨message.contentType, body⟩) first left).runFrom j ∨
      IsRefused disk j ((transmitKeptFrom disk c r message first left).runFrom j) := by
  induction left generalizing first j with
  | zero =>
      rcases attemptKept_cases disk reads first with attempted | refused
      · exact .inl (runFrom_bind_congr attempted fun _ _ _ => rfl)
      · exact .inr refused.bind
  | succ left inductionHypothesis =>
      rcases attemptKept_cases disk reads first with attempted | refused
      · have attempt := runFrom_attemptOnce (c := c)
          (t := transmissionOf r ⟨message.contentType, body⟩) first j
        rw [transmitKeptFrom, transmitFrom, runFrom_bind_of_ok (attempted.trans attempt),
          runFrom_bind_of_ok attempt]
        cases received : c.received first with
        | ok response => exact .inl rfl
        | error cause =>
            by_cases passing : cause.isRetriable = true
            · simp only [if_pos passing]
              let attempted := j.attempted c (transmissionOf r ⟨message.contentType, body⟩) first
              have still : (attempted.paused c r first cause).held.Reads message.handle body :=
                reads
              have paused := runFrom_pause (c := c) (r := r) first cause attempted
              split at paused
              · left
                rw [runFrom_bind_of_error paused, runFrom_bind_of_error paused]
              · -- Neither an attempt nor a pause touches the resources.
                rw [runFrom_bind_of_ok paused, runFrom_bind_of_ok paused]
                exact (inductionHypothesis still (first + 1)).imp_right fun refused =>
                  refused.of_held rfl
            · left
              simp only [if_neg passing]
      · exact .inr refused.bind

theorem runFrom_deliverKept (reads : j.held.Reads message.handle body) :
    (deliverKept .working r message response answer).runFrom j =
      (deliver r ⟨message.contentType, body⟩ response answer).runFrom j := by
  unfold deliverKept
  cases watched : r.observers.watches .outgoing with
  | true => rw [if_pos rfl, runFrom_bind_of_ok (runFrom_fetch_working reads)]
  | false =>
      have unheard (body : Bytes) : (observe r.observers
          (.outgoing answer.requestMessageId message.contentType body)).runFrom j = (.ok (), j) := by
        simp [runFrom_observe, Observers.verdict, Observers.told, Notice.slot, watched]
      rw [if_neg Bool.false_ne_true, runFrom_bind_of_ok (runFrom_pure _ _)]
      unfold deliver
      rw [runFrom_bind_of_ok (unheard []), runFrom_bind_of_ok (unheard body)]

theorem runFrom_finishKept (reads : j.held.Reads message.handle body)
    (answered : Nat × Response) :
    (finishKept .working c r message answered).runFrom j =
      (finish c r ⟨message.contentType, body⟩ answered).runFrom j := by
  let received := ({ j with phase := .awaitingResponse } : Journal).retained answered.2.body
  have answering : received.held.Reads j.held.scope.held.length answered.2.body :=
    j.held.reads_retain answered.2.body
  unfold finishKept finish enter
  rw [runFrom_modify_bind, runFrom_bind_of_ok (runFrom_retain_working _ _),
    runFrom_bind_of_ok (runFrom_fetch_working answering), runFrom_modify_bind,
    runFrom_bind_of_ok (runFrom_retain_working _ _)]
  refine runFrom_bind_congr rfl fun answer k accepted => ?_
  rw [runFrom_modify_bind, runFrom_modify_bind]
  refine runFrom_bind_congr (runFrom_deliverKept ?_) fun _ _ _ => rfl
  have kept : Keeps (accept c r answered.1 answered.2) Journal.held :=
    keeps_accept fun _ _ => rfl
  have same : k.held = received.held :=
    (congrArg (fun ran => ran.2.held) accepted).symm.trans (kept received)
  show k.held.Reads message.handle body
  rw [same]
  exact reads.retain answered.2.body

/-! ## The exchange -/

theorem runFrom_runKept (c : Circumstances) (r : ExchangeRequest) (start : Journal) :
    (runKept .working c r).runFrom start = (run c r).runFrom start := by
  rcases prepareKept_cases c r start with
    ⟨error, k, failed, kept⟩ | ⟨wire, handle, k, made, kept, reads⟩
  · rw [run_of_prepare_error failed, runKept, runFrom_bind_of_error kept]
  · rw [runKept, run, runFrom_bind_of_ok kept, runFrom_bind_of_ok made]
    have transmits := (transmitKeptFrom_cases .working c r ⟨wire.contentType, handle⟩ reads 1
      (r.retry.maxAttempts - 1)).resolve_right (not_isRefused_working _)
    refine runFrom_bind_congr transmits fun answered l sent => ?_
    have untouched := keeps_transmitFrom c r (transmissionOf r wire) 1 (r.retry.maxAttempts - 1) k
    have same : l.held = k.held :=
      (congrArg (fun ran => ran.2.held) sent).symm.trans untouched
    rw [← same] at reads
    exact runFrom_finishKept reads answered

/-- Bodies that are read back from the scope are the bodies that went there. -/
theorem executeKept_eq (c : Circumstances) (r : ExchangeRequest) (start : Journal) :
    executeKept .working c r start = execute c r start := by
  rw [executeKept, execute, runFrom_runKept]

end Exchange

end Ebms
