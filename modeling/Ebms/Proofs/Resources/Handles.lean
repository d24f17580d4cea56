import Ebms.Proofs.Resources
import Mathlib.Data.List.Induction

/-! # Handles and the scopes that issued them

A handle is no more than a position, and the scope that issued it does not show in it.
Read through another scope it gives what that scope issued a handle of the same position
for, if it did, and is refused only if it did not.  So a scope refuses the handles of all
other scopes just as long as it is empty or no other scope was ever used. -/

set_option autoImplicit false

namespace Ebms

namespace Pool

/-- In some calls a scope retained data and gave this handle for it. -/
def Issued (calls : List PoolCall) (number handle : Nat) (data : Bytes) : Prop :=
  ∃ before after isSpooled, calls = before ++ .retain number data :: after ∧
    ((empty.after before).respond (.retain number data)).2 = .retained handle isSpooled

/-- After some calls, the handles that other scopes issued do not read through this one. -/
def RejectsForeign (calls : List PoolCall) (number : Nat) : Prop :=
  ∀ issuer handle data, issuer ≠ number → Issued calls issuer handle data →
    ((empty.after calls).respond (.read number handle)).2 = .read (.error .foreignHandle)

/-! ## Histories -/

variable {calls : List PoolCall} {call : PoolCall} {number handle : Nat} {data : Bytes}

theorem not_issued_nil : ¬ Issued [] number handle data := by
  rintro ⟨before, after, -, split, -⟩
  exact absurd split (by simp)

theorem Issued.append (issued : Issued calls number handle data) (more : List PoolCall) :
    Issued (calls ++ more) number handle data := by
  obtain ⟨before, after, isSpooled, rfl, reply⟩ := issued
  exact ⟨before, after ++ more, isSpooled, by simp, reply⟩

theorem issued_append_singleton :
    Issued (calls ++ [call]) number handle data ↔
      Issued calls number handle data ∨ call = .retain number data ∧
        ∃ isSpooled, ((empty.after calls).respond call).2 = .retained handle isSpooled := by
  constructor
  · rintro ⟨before, after, isSpooled, split, reply⟩
    rcases List.eq_nil_or_concat after with rfl | ⟨between, last, rfl⟩
    · obtain ⟨rfl, same⟩ := List.append_inj' split rfl
      obtain rfl := List.singleton_inj.mp same
      exact .inr ⟨rfl, isSpooled, reply⟩
    · have regrouped : calls ++ [call] = (before ++ .retain number data :: between) ++ [last] := by
        rw [split]
        simp
      obtain ⟨rfl, -⟩ := List.append_inj' regrouped rfl
      exact .inl ⟨before, between, isSpooled, rfl, reply⟩
  · rintro (issued | ⟨rfl, isSpooled, reply⟩)
    · exact issued.append [call]
    · exact ⟨calls, [], isSpooled, rfl, reply⟩

/-- A ledger records the handles that were issued in some calls: those of an open scope are
the positions of what it holds, and a scope that was never opened has none. -/
structure Records (calls : List PoolCall) (l : Ledger) : Prop where
  held : ∀ {number : Nat} {s : KeptScope}, l.scope? number = some s → ∀ handle data,
    Issued calls number handle data ↔ s.held[handle]?.map Kept.data = some data
  unopened : ∀ {number : Nat}, l.length ≤ number → ∀ handle data,
    ¬ Issued calls number handle data

theorem Records.nil : Records [] [] where
  held found := nomatch found
  unopened _ _ _ := not_issued_nil

variable {l : Ledger}

theorem issued_append_of_silent (silent : ∀ number handle data, call = .retain number data →
      ∀ isSpooled, ((empty.after calls).respond call).2 ≠ .retained handle isSpooled) :
    Issued (calls ++ [call]) number handle data ↔ Issued calls number handle data := by
  rw [issued_append_singleton, or_iff_left]
  rintro ⟨retains, isSpooled, reply⟩
  exact silent number handle data retains isSpooled reply

theorem Records.silent (records : Records calls l) {m : Ledger} (grown : l.length ≤ m.length)
    (old : ∀ {number : Nat} {s : KeptScope}, m.scope? number = some s →
      l.scope? number = some s ∨ l.length ≤ number ∧ s.held = [])
    (silent : ∀ number handle data, call = .retain number data → ∀ isSpooled,
      ((empty.after calls).respond call).2 ≠ .retained handle isSpooled) :
    Records (calls ++ [call]) m where
  held found handle data := by
    rw [issued_append_of_silent silent]
    rcases old found with stays | ⟨unopened, fresh⟩
    · exact records.held stays handle data
    · exact iff_of_false (records.unopened unopened handle data) (by simp [fresh])
  unopened beyond handle data := by
    rw [issued_append_of_silent silent]
    exact records.unopened (Nat.le_trans grown beyond) handle data

theorem issued_append_retain (follows : (empty.after calls).Follows l) {s : KeptScope}
    {holder : Nat} (found : l.scope? holder = some s) (kept : Bytes) :
    Issued (calls ++ [.retain holder kept]) number handle data ↔
      Issued calls number handle data ∨
        number = holder ∧ handle = s.held.length ∧ data = kept := by
  rw [issued_append_singleton]
  refine or_congr_right ⟨?_, ?_⟩
  · rintro ⟨same, isSpooled, reply⟩
    obtain ⟨rfl, rfl⟩ := PoolCall.retain.inj same
    rw [follows.respond_retain found] at reply
    exact ⟨rfl, (PoolReply.retained.inj reply).1.symm, rfl⟩
  · rintro ⟨rfl, rfl, rfl⟩
    exact ⟨rfl, _, follows.respond_retain found data⟩

theorem getElem?_append_singleton {held : List Kept} {k : Kept} :
    (held ++ [k])[handle]?.map Kept.data = some data ↔
      held[handle]?.map Kept.data = some data ∨ handle = held.length ∧ data = k.data := by
  rcases Nat.lt_trichotomy handle held.length with earlier | rfl | beyond
  · simp [List.getElem?_append_left earlier, Nat.ne_of_lt earlier]
  · simp [eq_comm]
  · have none : ((held ++ [k])[handle]?) = none :=
      List.getElem?_eq_none (by rw [List.length_append]; exact beyond)
    simp [none, Nat.ne_of_gt beyond, Nat.le_of_lt beyond]

theorem Records.retained (records : Records calls l) (follows : (empty.after calls).Follows l)
    {s : KeptScope} {holder : Nat} (found : l.scope? holder = some s) (k : Kept) :
    Records (calls ++ [.retain holder k.data]) (l.set holder (some (s.add k))) where
  held {number t} here handle data := by
    rw [issued_append_retain follows found]
    by_cases same : number = holder
    · subst same
      obtain rfl : s.add k = t := by
        simpa [Ledger.scope?, Ledger.lt_length found] using here
      rw [records.held found, KeptScope.add, getElem?_append_singleton]
      simp
    · have stays : l.scope? number = some t := by
        simpa [Ledger.scope?, List.getElem?_set_ne (Ne.symm same)] using here
      rw [records.held stays]
      simp [same]
  unopened {number} beyond handle data := by
    rw [List.length_set] at beyond
    have other : number ≠ holder := Nat.ne_of_gt (Nat.lt_of_lt_of_le (Ledger.lt_length found) beyond)
    rw [issued_append_retain follows found]
    simp [other, records.unopened beyond]

theorem Records.next (records : Records calls l) (follows : (empty.after calls).Follows l)
    (call : PoolCall) :
    Records (calls ++ [call]) (l.next (empty.after calls).folder.nextName call) := by
  cases call with
  | read number' handle' => exact records.silent (Nat.le_refl _) .inl (by rintro _ _ _ ⟨⟩)
  | openScope threshold =>
      refine records.silent (by simp [Ledger.next]) (fun {number s} found => ?_)
        (by rintro _ _ _ ⟨⟩)
      by_cases inside : number < l.length
      · exact .inl (by simpa [Ledger.next, Ledger.scope?, List.getElem?_append_left inside] using found)
      · have beyond := Nat.le_of_not_lt inside
        have last : [some { threshold, held := [] }][number - l.length]? = some (some s) := by
          simpa only [Ledger.next, List.getElem?_append_right beyond] using
            Option.join_eq_some_iff.mp found
        obtain rfl := Option.some.inj (List.mem_singleton.mp (List.mem_of_getElem? last))
        exact .inr ⟨beyond, rfl⟩
  | close number' =>
      refine records.silent (by simp [Ledger.next]) (fun {number s} found => .inl ?_)
        (by rintro _ _ _ ⟨⟩)
      by_cases same : number' = number
      · subst same
        have gone := Option.join_eq_some_iff.mp found
        rw [Ledger.next, List.getElem?_set_self'] at gone
        cases here : l[number']? <;> simp [here] at gone
      · simpa [Ledger.next, Ledger.scope?, List.getElem?_set_ne same] using found
  | retain number' data' =>
      cases found : l.scope? number' with
      | some s =>
          rw [Ledger.next, found]
          exact records.retained follows found (s.keep _ data')
      | none =>
          rw [Ledger.next, found]
          refine records.silent (Nat.le_refl _) .inl ?_
          rintro _ handle _ ⟨⟩ isSpooled reply
          simp [Pool.respond, follows.scope?, found] at reply

/-- After any calls there is a ledger of what the scopes hold that has recorded all handles. -/
theorem exists_records (calls : List PoolCall) :
    ∃ l, (empty.after calls).Follows l ∧ Records calls l := by
  -- From the end: what the last call issues depends on all calls before it.
  induction calls using List.reverseRecOn with
  | nil => exact ⟨[], .empty, .nil⟩
  | append_singleton calls call inductionHypothesis =>
      obtain ⟨l, follows, records⟩ := inductionHypothesis
      refine ⟨_, ?_, records.next follows call⟩
      rw [after_append_singleton]
      exact follows.respond call

/-! ## Reading -/

variable {scope : Scope}

/-- Handles are issued in order, so that the first one was issued before any other. -/
theorem Issued.exists_first (issued : Issued calls number handle data) :
    ∃ first, Issued calls number 0 first := by
  obtain ⟨before, after, isSpooled, rfl, reply⟩ := issued
  obtain ⟨l, follows, records⟩ := exists_records before
  cases found : l.scope? number with
  | none => simp [Pool.respond, follows.scope?, found] at reply
  | some s =>
      cases held : s.held with
      | nil =>
          have first : 0 = handle := by
            rw [follows.respond_retain found, held] at reply
            exact (PoolReply.retained.inj reply).1
          exact ⟨data, before, after, isSpooled, rfl, first ▸ reply⟩
      | cons k held' =>
          have recorded := (records.held found 0 k.data).mpr (by simp [held])
          exact ⟨k.data, recorded.append _⟩

theorem Follows.exists_scope {p : Pool} (follows : p.Follows l)
    (isOpen : p.scope? number = some scope) :
    ∃ s, l.scope? number = some s ∧ s.scope = scope := by
  rw [follows.scope?] at isOpen
  exact Option.map_eq_some_iff.mp isOpen

theorem respond_read_of_issued (isOpen : (empty.after calls).scope? number = some scope)
    (issued : Issued calls number handle data) :
    ((empty.after calls).respond (.read number handle)).2 =
      .read (.ok { data, isSpooled := decide (scope.threshold < data.length) }) := by
  obtain ⟨l, follows, records⟩ := exists_records calls
  obtain ⟨s, found, rfl⟩ := follows.exists_scope isOpen
  obtain ⟨k, here, rfl⟩ := Option.map_eq_some_iff.mp ((records.held found handle data).mp issued)
  rw [follows.respond_read found here, Kept.resource,
    follows.sorted s (Ledger.mem_reduceOption found) k (List.mem_of_getElem? here)]
  rfl

theorem respond_read_of_not_issued (isOpen : (empty.after calls).scope? number = some scope)
    (foreign : ∀ data, ¬ Issued calls number handle data) :
    ((empty.after calls).respond (.read number handle)).2 = .read (.error .foreignHandle) := by
  obtain ⟨l, follows, records⟩ := exists_records calls
  obtain ⟨s, found, rfl⟩ := follows.exists_scope isOpen
  have absent : s.held[handle]? = none := by
    cases here : s.held[handle]? with
    | none => rfl
    | some k =>
        have issued := (records.held found handle k.data).mpr (by rw [here, Option.map_some])
        exact absurd issued (foreign k.data)
  simp [Pool.respond, follows.scope?, found, Pool.holding, Holding.read, Scope.read,
    KeptScope.scope, absent]

theorem exists_issued_iff (isOpen : (empty.after calls).scope? number = some scope) :
    (∃ data, Issued calls number 0 data) ↔ scope.held ≠ [] := by
  obtain ⟨l, follows, records⟩ := exists_records calls
  obtain ⟨s, found, rfl⟩ := follows.exists_scope isOpen
  simp only [records.held found, KeptScope.scope]
  cases s.held <;> simp

/-- An open scope refuses all handles of other scopes exactly if it holds nothing or no other
scope has ever issued one.  A handle of another scope reads there like its own of the same
position, and if there is none it is refused. -/
theorem rejectsForeign_iff (isOpen : (empty.after calls).scope? number = some scope) :
    (RejectsForeign calls number ↔ scope.held = [] ∨
      ∀ issuer handle data, issuer ≠ number → ¬ Issued calls issuer handle data) ∧
    ∀ handle,
      (∀ data, Issued calls number handle data →
        ((empty.after calls).respond (.read number handle)).2 =
          .read (.ok { data, isSpooled := decide (scope.threshold < data.length) })) ∧
      ((∀ data, ¬ Issued calls number handle data) →
        ((empty.after calls).respond (.read number handle)).2 =
          .read (.error .foreignHandle)) := by
  refine ⟨⟨fun rejects => ?_, ?_⟩, fun handle =>
    ⟨fun data => respond_read_of_issued isOpen, respond_read_of_not_issued isOpen⟩⟩
  · by_cases empty : scope.held = []
    · exact .inl empty
    · obtain ⟨own, mine⟩ := (exists_issued_iff isOpen).mpr empty
      refine .inr fun issuer handle data other issued => ?_
      obtain ⟨first, foreign⟩ := issued.exists_first
      have refused := rejects issuer 0 first other foreign
      rw [respond_read_of_issued isOpen mine] at refused
      cases refused
  · rintro (empty | alone) issuer handle data other issued
    · refine respond_read_of_not_issued isOpen fun own mine => ?_
      exact (exists_issued_iff isOpen).mp mine.exists_first empty
    · exact absurd issued (alone issuer handle data other)

/-! ## Two scopes -/

def sampleScopes : List PoolCall :=
  [.openScope 8, .openScope 8, .openScope 8, .retain 0 [120], .retain 1 [121]]

theorem rejectsForeign_iff_sampleScopes :
    (empty.after sampleScopes).scope? 2 = some { threshold := 8, held := [] } ∧
      RejectsForeign sampleScopes 2 ∧ Issued sampleScopes 0 0 [120] := by
  have isOpen : (empty.after sampleScopes).scope? 2 = some { threshold := 8, held := [] } := by
    decide
  exact ⟨isOpen, (rejectsForeign_iff isOpen).1.mpr (.inl rfl), _, _, _,
    show sampleScopes = sampleScopes.take 3 ++ .retain 0 [120] :: [.retain 1 [121]] from rfl, rfl⟩

/-- The handle of one scope reads the data of another one. -/
theorem not_rejectsForeign_sampleScopes :
    Issued sampleScopes 0 0 [120] ∧ ¬ RejectsForeign sampleScopes 1 ∧
      ((empty.after sampleScopes).respond (.read 1 0)).2 =
        .read (.ok { data := [121], isSpooled := false }) := by
  have issued : Issued sampleScopes 0 0 [120] :=
    ⟨sampleScopes.take 3, [.retain 1 [121]], false, rfl, rfl⟩
  refine ⟨issued, fun rejects => ?_, rfl⟩
  have refused := rejects 0 0 [120] (by decide) issued
  cases refused

end Pool

end Ebms
