import Ebms.Resources.Pool
import Mathlib.Data.List.Induction
import Mathlib.Data.List.Nodup
import Mathlib.Data.List.Perm.Basic
import Mathlib.Data.List.ReduceOption

/-! # Resources are accounted for

Scopes over one tracker and one folder are opened, filled, read and closed in any order.
At every point the scopes are open that were opened and not closed since, the tracker counts
what they hold, the spool files are exactly those of the large resources among it, and every
resource reads as what was retained.

A ledger says of every resource what its data is and which file it lies in.  Every call
keeps the ledger, and the counts and the readings are those of the ledger. -/

set_option autoImplicit false

namespace Ebms

/-! ## Folders -/

namespace SpoolFolder

variable {f : SpoolFolder}

@[simp] theorem without_nil (f : SpoolFolder) : f.without [] = f := by
  simp [without]

theorem without_without (f : SpoolFolder) (first second : List Nat) :
    (f.without first).without second = f.without (first ++ second) := by
  simp [without, List.filter_filter, Bool.and_comm]

theorem read?_eq_some {name : Nat} {data : Bytes} (member : (name, data) ∈ f.files) :
    f.read? name = some data := by
  obtain ⟨before, after, split⟩ := List.append_of_mem member
  refine List.lookup_eq_some_iff.mpr ⟨before, after, split, fun file earlier => ?_⟩
  have distinct := f.nodup
  rw [split, List.map_append, List.nodup_append] at distinct
  have different := distinct.2.2 file.1 (List.mem_map_of_mem earlier) name (by simp)
  simpa using Ne.symm different

theorem filter_names {taken left : List (Nat × Bytes)}
    (distinct : ((taken ++ left).map Prod.fst).Nodup) :
    taken.filter (fun file => decide (file.1 ∉ taken.map Prod.fst)) = [] ∧
      left.filter (fun file => decide (file.1 ∉ taken.map Prod.fst)) = left := by
  rw [List.map_append, List.nodup_append] at distinct
  constructor
  · exact List.filter_eq_nil_iff.mpr fun file member => by
      simpa using ⟨file.2, member⟩
  · exact List.filter_eq_self.mpr fun file member =>
      decide_eq_true fun taken => distinct.2.2 file.1 taken file.1 (List.mem_map_of_mem member) rfl

theorem files_without {taken left : List (Nat × Bytes)} (filed : f.files.Perm (taken ++ left)) :
    (f.without (taken.map Prod.fst)).files.Perm left := by
  obtain ⟨gone, unchanged⟩ := filter_names ((filed.map Prod.fst).nodup_iff.mp f.nodup)
  have remaining := filed.filter fun file => decide (file.1 ∉ taken.map Prod.fst)
  rwa [List.filter_append, gone, unchanged, List.nil_append] at remaining

theorem files_without_last {first last : List (Nat × Bytes)} (filed : f.files = first ++ last) :
    (f.without (last.map Prod.fst)).files = first := by
  have distinct : ((last ++ first).map Prod.fst).Nodup := by
    have ordered := f.nodup
    rw [filed] at ordered
    exact (List.perm_append_comm.map Prod.fst).nodup_iff.mp ordered
  obtain ⟨gone, unchanged⟩ := filter_names distinct
  show f.files.filter (fun file => decide (file.1 ∉ last.map Prod.fst)) = first
  rw [filed, List.filter_append, gone, unchanged, List.append_nil]

end SpoolFolder

/-! ## Ledgers -/

/-- Retained data, and the name of the spool file that it lies in, if there is one. -/
structure Kept where
  data : Bytes
  file : Option Nat

namespace Kept

def storage (k : Kept) : Storage :=
  match k.file with
  | none => .memory k.data
  | some name => .spooled name

def resource (k : Kept) : Resource := { data := k.data, isSpooled := k.file.isSome }

def spoolFile? (k : Kept) : Option (Nat × Bytes) := k.file.map fun name => (name, k.data)

@[simp] theorem isSpooled_storage (k : Kept) : k.storage.isSpooled = k.file.isSome := by
  obtain ⟨data, _ | name⟩ := k <;> rfl

@[simp] theorem isSome_spoolFile? (k : Kept) : k.spoolFile?.isSome = k.file.isSome :=
  Option.isSome_map

theorem discard_storage (k : Kept) (folder : SpoolFolder) :
    k.storage.discard folder = folder.without (k.spoolFile?.toList.map Prod.fst) := by
  obtain ⟨data, _ | name⟩ := k
  · exact (folder.without_nil).symm
  · rfl

theorem read?_storage {k : Kept} {folder : SpoolFolder}
    (filed : ∀ entry ∈ k.spoolFile?, entry ∈ folder.files) :
    k.storage.read? folder = some k.data := by
  obtain ⟨data, _ | name⟩ := k
  · rfl
  · exact SpoolFolder.read?_eq_some (filed (name, data) rfl)

end Kept

def Kept.entries (held : List Kept) : List (Nat × Bytes) := held.filterMap Kept.spoolFile?

theorem Kept.entries_cons (k : Kept) (held : List Kept) :
    entries (k :: held) = k.spoolFile?.toList ++ entries held := by
  cases file : k.spoolFile? <;> simp [entries, file]

theorem Kept.entries_append (held more : List Kept) :
    entries (held ++ more) = entries held ++ entries more :=
  List.filterMap_append

structure KeptScope where
  threshold : Nat
  held : List Kept

namespace KeptScope

def scope (s : KeptScope) : Scope :=
  { threshold := s.threshold, held := s.held.map Kept.storage }

def keep (s : KeptScope) (name : Nat) (data : Bytes) : Kept :=
  { data, file := if s.threshold < data.length then some name else none }

def add (s : KeptScope) (k : Kept) : KeptScope := { s with held := s.held ++ [k] }

/-- Just the data above the threshold lies in files. -/
def IsSorted (s : KeptScope) : Prop :=
  ∀ k ∈ s.held, k.file.isSome = decide (s.threshold < k.data.length)

theorem IsSorted.add {s : KeptScope} (sorted : s.IsSorted) (name : Nat) (data : Bytes) :
    (s.add (s.keep name data)).IsSorted := by
  intro k member
  rcases List.mem_append.mp member with old | new
  · exact sorted k old
  · obtain rfl := List.mem_singleton.mp new
    by_cases large : s.threshold < data.length <;> simp [keep, KeptScope.add, large]

@[simp] theorem threshold_scope (s : KeptScope) : s.scope.threshold = s.threshold := rfl

@[simp] theorem length_held_scope (s : KeptScope) : s.scope.held.length = s.held.length :=
  List.length_map ..

theorem store_scope (s : KeptScope) (folder : SpoolFolder) (data : Bytes) :
    s.scope.store folder data =
      ((s.keep folder.nextName data).storage,
        if s.threshold < data.length then folder.create data else folder) := by
  by_cases large : s.threshold < data.length <;>
    simp [Scope.store, scope, keep, Kept.storage, large]

theorem add_scope (s : KeptScope) (k : Kept) : s.scope.add k.storage = (s.add k).scope := by
  simp [Scope.add, scope, add]

/-- Releasing what a scope holds counts it and removes its files, and those only. -/
theorem close_scope (s : KeptScope) (tracker : Tracker) (folder : SpoolFolder) :
    s.scope.close tracker folder =
      ({ tracker with
          released := tracker.released + s.held.length
          spoolRemoved := tracker.spoolRemoved + (Kept.entries s.held).length },
        folder.without ((Kept.entries s.held).map Prod.fst)) := by
  obtain ⟨threshold, held⟩ := s
  induction held generalizing tracker folder with
  | nil => simp [Scope.close, scope, Kept.entries]
  | cons k held inductionHypothesis =>
      have step : (mk threshold (k :: held)).scope.close tracker folder =
          (mk threshold held).scope.close (tracker.release k.storage.isSpooled)
            (k.storage.discard folder) := rfl
      have counted : k.file.isSome.toNat = k.spoolFile?.toList.length := by
        cases file : k.file <;> simp [Kept.spoolFile?, file]
      rw [step, inductionHypothesis, Kept.discard_storage, SpoolFolder.without_without,
        Kept.entries_cons, List.map_append]
      simp [Tracker.release, counted]
      omega

def holding (s : KeptScope) (tracker : Tracker) (folder : SpoolFolder) : Holding :=
  { tracker, folder, scope := s.scope }

/-- Data that is retained joins what the scope holds, large data with a file at the end of
the folder. -/
theorem retain_holding (s : KeptScope) (tracker : Tracker) (folder : SpoolFolder) (data : Bytes) :
    (s.holding tracker folder).retain data =
      (s.add (s.keep folder.nextName data)).holding
        (tracker.acquire (s.keep folder.nextName data).file.isSome)
        (if s.threshold < data.length then folder.create data else folder) := by
  have stored := s.store_scope folder data
  simp only [Holding.retain, holding, stored, Kept.isSpooled_storage, add_scope]

theorem close_holding (s : KeptScope) (tracker : Tracker) (folder : SpoolFolder) :
    (s.holding tracker folder).close =
      .opened
        { tracker with
          released := tracker.released + s.held.length
          spoolRemoved := tracker.spoolRemoved + (Kept.entries s.held).length }
        (folder.without ((Kept.entries s.held).map Prod.fst)) s.threshold := by
  simp only [Holding.close, holding, close_scope, Holding.opened, threshold_scope]

end KeptScope

/-- Scopes by number, as in a pool. -/
abbrev Ledger := List (Option KeptScope)

namespace Ledger

def scope? (l : Ledger) (number : Nat) : Option KeptScope := l[number]?.join

def kept (l : Ledger) : List Kept := l.reduceOption.flatMap KeptScope.held

def entries (l : Ledger) : List (Nat × Bytes) := Kept.entries l.kept

/-- The ledger after a call, where the next spool file has a name. -/
def next (l : Ledger) (name : Nat) : PoolCall → Ledger
  | .openScope threshold => l ++ [some { threshold, held := [] }]
  | .retain number data =>
    match l.scope? number with
    | none => l
    | some s => l.set number (some (s.add (s.keep name data)))
  | .read _ _ => l
  | .close number => l.set number none

@[simp] theorem kept_nil : kept [] = [] := rfl

theorem kept_append (l m : Ledger) : kept (l ++ m) = kept l ++ kept m := by
  simp [kept, List.reduceOption_append]

@[simp] theorem kept_cons_some (s : KeptScope) (l : Ledger) :
    kept (some s :: l) = s.held ++ kept l := by
  simp [kept, List.reduceOption_cons_of_some]

@[simp] theorem kept_cons_none (l : Ledger) : kept (none :: l) = kept l := by
  simp [kept, List.reduceOption_cons_of_none]

variable {l : Ledger} {number : Nat} {s : KeptScope}

theorem exists_split (found : l.scope? number = some s) :
    ∃ before after : Ledger, l = before ++ some s :: after ∧
      ∀ entry, l.set number entry = before ++ entry :: after := by
  obtain ⟨inside, here⟩ := List.getElem?_eq_some_iff.mp (Option.join_eq_some_iff.mp found)
  refine ⟨l.take number, l.drop (number + 1), ?_, fun entry => ?_⟩
  · rw [← here, List.getElem_cons_drop, List.take_append_drop]
  · rw [List.set_eq_take_append_cons_drop, if_pos inside]

theorem lt_length (found : l.scope? number = some s) : number < l.length :=
  (List.getElem?_eq_some_iff.mp (Option.join_eq_some_iff.mp found)).1

theorem mem_reduceOption (found : l.scope? number = some s) : s ∈ l.reduceOption :=
  List.reduceOption_mem_iff.mpr (List.mem_of_getElem? (Option.join_eq_some_iff.mp found))

theorem set_none (closed : l.scope? number = none) : l.set number none = l := by
  by_cases inside : number < l.length
  · have here : l[number] = none := by simpa [scope?, inside] using closed
    rw [← here, List.set_getElem_self]
  · exact List.set_eq_of_length_le (Nat.le_of_not_lt inside)

theorem mem_reduceOption_set {entry : Option KeptScope} {t : KeptScope}
    (member : t ∈ (l.set number entry).reduceOption) : t ∈ l.reduceOption ∨ entry = some t := by
  rw [List.reduceOption_mem_iff] at member ⊢
  exact (List.mem_or_eq_of_mem_set member).imp_right Eq.symm

theorem kept_set_add (found : l.scope? number = some s) (k : Kept) :
    (kept (l.set number (some (s.add k)))).Perm (k :: l.kept) := by
  obtain ⟨before, after, split, replaced⟩ := exists_split found
  rw [replaced, split, kept_append, kept_append, kept_cons_some, kept_cons_some]
  simpa [KeptScope.add] using
    @List.perm_middle _ k (kept before ++ s.held) (kept after)

theorem kept_set_none (found : l.scope? number = some s) :
    l.kept.Perm (s.held ++ kept (l.set number none)) := by
  obtain ⟨before, after, split, replaced⟩ := exists_split found
  rw [replaced, split, kept_append, kept_append, kept_cons_some, kept_cons_none]
  exact List.perm_append_comm_assoc ..

/-- Until a scope is closed it keeps what it holds, in its place. -/
theorem scope?_next (found : l.scope? number = some s) (name : Nat) {call : PoolCall}
    (other : call ≠ .close number) :
    ∃ more, (l.next name call).scope? number = some { s with held := s.held ++ more } := by
  have inside := lt_length found
  cases call with
  | openScope threshold =>
      exact ⟨[], by simpa [next, scope?, List.getElem?_append_left inside] using found⟩
  | read number' handle => exact ⟨[], by simpa [next] using found⟩
  | close number' =>
      have different : number' ≠ number := fun same => other (same ▸ rfl)
      exact ⟨[], by simpa [next, scope?, List.getElem?_set_ne different] using found⟩
  | retain number' data =>
      by_cases same : number' = number
      · subst same
        refine ⟨[s.keep name data], ?_⟩
        simp only [next, found]
        simp [scope?, inside, KeptScope.add]
      · refine ⟨[], ?_⟩
        rw [next]
        split
        · simpa using found
        · simpa [scope?, List.getElem?_set_ne same] using found

end Ledger

/-- A ledger says what a pool holds. -/
structure Pool.Follows (p : Pool) (l : Ledger) : Prop where
  scopes : p.scopes = l.map (Option.map KeptScope.scope)
  sorted : ∀ s ∈ l.reduceOption, s.IsSorted
  files : p.folder.files.Perm l.entries
  acquired : p.tracker.acquired = p.tracker.released + l.kept.length
  spooled : p.tracker.spooled = p.tracker.spoolRemoved + l.entries.length

namespace Pool.Follows

variable {p : Pool} {l : Ledger} {number : Nat}

theorem empty : Pool.empty.Follows [] where
  scopes := rfl
  sorted := by simp
  files := .refl _
  acquired := rfl
  spooled := rfl

theorem scope? (follows : p.Follows l) (number : Nat) :
    p.scope? number = (l.scope? number).map KeptScope.scope := by
  rw [Pool.scope?, follows.scopes, List.getElem?_map, Ledger.scope?]
  cases l[number]? <;> rfl

theorem openScope (follows : p.Follows l) (threshold : Nat) :
    (p.openScope threshold).Follows (l ++ [some { threshold, held := [] }]) where
  scopes := by simp [Pool.openScope, follows.scopes, KeptScope.scope,
    Scope.ofThreshold]
  sorted s member := by
    rcases List.mem_append.mp (List.reduceOption_append .. ▸ member) with old | new
    · exact follows.sorted s old
    · obtain rfl : s = { threshold, held := [] } := by simpa using new
      simp [KeptScope.IsSorted]
  files := by simpa [Ledger.entries, Ledger.kept_append, Pool.openScope] using follows.files
  acquired := by simpa [Ledger.kept_append, Pool.openScope] using follows.acquired
  spooled := by
    simpa [Ledger.entries, Ledger.kept_append, Pool.openScope] using follows.spooled

theorem retainIn (follows : p.Follows l) {s : KeptScope} (found : l.scope? number = some s)
    (data : Bytes) :
    (p.retainIn number s.scope data).Follows
      (l.set number (some (s.add (s.keep p.folder.nextName data)))) := by
  have held := Ledger.kept_set_add found (s.keep p.folder.nextName data)
  have filed : (Ledger.entries (l.set number (some (s.add (s.keep p.folder.nextName data))))).Perm
      ((s.keep p.folder.nextName data).spoolFile?.toList ++ l.entries) := by
    rw [Ledger.entries, Ledger.entries, ← Kept.entries_cons]
    exact held.filterMap Kept.spoolFile?
  have made : p.retainIn number s.scope data =
      { tracker := p.tracker.acquire (s.keep p.folder.nextName data).file.isSome
        folder := if s.threshold < data.length then p.folder.create data else p.folder
        scopes := p.scopes.set number (some (s.add (s.keep p.folder.nextName data)).scope) } := by
    have holding : p.holding s.scope = s.holding p.tracker p.folder := rfl
    rw [Pool.retainIn, holding, KeptScope.retain_holding]
    rfl
  rw [made]
  refine
    { scopes := by simp [follows.scopes, List.map_set]
      sorted := fun t member => ?_
      files := ?_
      acquired := ?_
      spooled := ?_ }
  · rcases Ledger.mem_reduceOption_set member with old | same
    · exact follows.sorted t old
    · obtain rfl := Option.some.inj same
      exact (follows.sorted s (Ledger.mem_reduceOption found)).add _ _
  · -- The new file comes last in the folder, but belongs to the scope that retains the data.
    refine .trans ?_ filed.symm
    by_cases large : s.threshold < data.length
    · simpa [large, SpoolFolder.create, KeptScope.keep, Kept.spoolFile?] using
        (List.perm_append_singleton _ _).trans (follows.files.cons _)
    · simpa [large, KeptScope.keep, Kept.spoolFile?] using follows.files
  · rw [held.length_eq]
    simp [Tracker.acquire, follows.acquired, Nat.add_assoc]
  · rw [filed.length_eq]
    cases file : (s.keep p.folder.nextName data).file <;>
      simp [Tracker.acquire, follows.spooled, Kept.spoolFile?, file]
    omega

theorem close (follows : p.Follows l) {s : KeptScope} (found : l.scope? number = some s) :
    (p.close number).Follows (l.set number none) := by
  have held := Ledger.kept_set_none found
  have filed : p.folder.files.Perm (Kept.entries s.held ++ Ledger.entries (l.set number none)) := by
    refine follows.files.trans ?_
    rw [Ledger.entries, Ledger.entries, ← Kept.entries_append]
    exact held.filterMap Kept.spoolFile?
  have closed : p.close number =
      { tracker := { p.tracker with
          released := p.tracker.released + s.held.length
          spoolRemoved := p.tracker.spoolRemoved + (Kept.entries s.held).length }
        folder := p.folder.without ((Kept.entries s.held).map Prod.fst)
        scopes := p.scopes.set number none } := by
    have holding : p.holding s.scope = s.holding p.tracker p.folder := rfl
    simp [Pool.close, follows.scope?, found, holding, KeptScope.close_holding, Holding.opened]
  have count := held.length_eq
  have fileCount := follows.files.length_eq.symm.trans filed.length_eq
  rw [List.length_append] at count fileCount
  rw [closed]
  refine
    { scopes := by simp [follows.scopes, List.map_set]
      sorted := fun t member => follows.sorted t ?_
      files := SpoolFolder.files_without filed
      acquired := ?_
      spooled := ?_ }
  · exact (Ledger.mem_reduceOption_set member).resolve_right (by simp)
  · simp only [follows.acquired]
    omega
  · simp only [follows.spooled]
    omega

theorem respond (follows : p.Follows l) (call : PoolCall) :
    (p.respond call).1.Follows (l.next p.folder.nextName call) := by
  cases call with
  | openScope threshold => exact follows.openScope threshold
  | read number handle =>
      simp only [Pool.respond]
      split <;> exact follows
  | retain number data =>
      cases found : l.scope? number with
      | none => simpa [Pool.respond, Ledger.next, follows.scope?, found] using follows
      | some s =>
          simpa [Pool.respond, Ledger.next, follows.scope?, found] using
            follows.retainIn found data
  | close number =>
      cases found : l.scope? number with
      | none =>
          simpa [Pool.respond, Ledger.next, Pool.close, follows.scope?, found,
            Ledger.set_none found] using follows
      | some s => exact follows.close found

theorem after (follows : p.Follows l) {s : KeptScope} (found : l.scope? number = some s)
    {calls : List PoolCall} (stays : .close number ∉ calls) :
    ∃ m more, (p.after calls).Follows m ∧
      m.scope? number = some { s with held := s.held ++ more } := by
  induction calls generalizing p l s with
  | nil => exact ⟨l, [], follows, by simpa using found⟩
  | cons call calls inductionHypothesis =>
      rw [List.mem_cons, not_or] at stays
      obtain ⟨added, kept⟩ := Ledger.scope?_next found p.folder.nextName (Ne.symm stays.1)
      obtain ⟨m, more, followed, here⟩ :=
        inductionHypothesis (follows.respond call) kept stays.2
      exact ⟨m, added ++ more, followed, by simpa using here⟩

theorem exists_after (follows : p.Follows l) (calls : List PoolCall) :
    ∃ m, (p.after calls).Follows m := by
  induction calls generalizing p l with
  | nil => exact ⟨l, follows⟩
  | cons call calls inductionHypothesis => exact inductionHypothesis (follows.respond call)

theorem read?_storage (follows : p.Follows l) {s : KeptScope} (isOpen : s ∈ l.reduceOption)
    {k : Kept} (member : k ∈ s.held) : k.storage.read? p.folder = some k.data :=
  k.read?_storage fun _ inFile => follows.files.symm.subset <|
    List.mem_filterMap.mpr ⟨k, List.mem_flatMap.mpr ⟨s, isOpen, member⟩, inFile⟩

theorem respond_retain (follows : p.Follows l) {s : KeptScope}
    (found : l.scope? number = some s) (data : Bytes) :
    (p.respond (.retain number data)).2 =
      .retained s.held.length (decide (s.threshold < data.length)) := by
  by_cases large : s.threshold < data.length <;>
    simp [Pool.respond, follows.scope?, found, KeptScope.store_scope,
      KeptScope.keep, large]

theorem respond_read (follows : p.Follows l) {s : KeptScope} (found : l.scope? number = some s)
    {handle : Nat} {k : Kept} (here : s.held[handle]? = some k) :
    (p.respond (.read number handle)).2 = .read (.ok k.resource) := by
  have readable := follows.read?_storage (Ledger.mem_reduceOption found) (List.mem_of_getElem? here)
  simp [Pool.respond, follows.scope?, found, Pool.holding, Holding.read, Scope.read,
    KeptScope.scope, here, readable, Kept.resource]

/-- Data that is retained reads back in all later calls until its scope is closed. -/
theorem respond_read_after (follows : p.Follows l) {s : KeptScope}
    (found : l.scope? number = some s) (data : Bytes) {later : List PoolCall}
    (stays : .close number ∉ later) :
    (((p.respond (.retain number data)).1.after later).respond
        (.read number s.held.length)).2 =
      .read (.ok { data, isSpooled := decide (s.threshold < data.length) }) := by
  have inside := Ledger.lt_length found
  have kept : (l.next p.folder.nextName (.retain number data)).scope? number =
      some (s.add (s.keep p.folder.nextName data)) := by
    simp only [Ledger.next, found]
    simp [Ledger.scope?, inside]
  obtain ⟨m, more, followed, here⟩ := (follows.respond (.retain number data)).after kept stays
  have stored : ((s.held ++ [s.keep p.folder.nextName data]) ++ more)[s.held.length]? =
      some (s.keep p.folder.nextName data) := by simp
  rw [followed.respond_read here stored]
  by_cases large : s.threshold < data.length <;> simp [Kept.resource, KeptScope.keep, large]

end Pool.Follows

/-! ## Open scopes -/

namespace PoolCall

def opens : PoolCall → Bool
  | .openScope _ => true
  | _ => false

def retainsIn (number : Nat) : PoolCall → Bool
  | .retain other _ => other == number
  | _ => false

/-- Some calls open a scope of a threshold and do not close it again, and retain so many
resources in it. -/
def LeaveOpen (calls : List PoolCall) (number threshold retained : Nat) : Prop :=
  ∃ before later, calls = before ++ .openScope threshold :: later ∧
    before.countP opens = number ∧ .close number ∉ later ∧
    later.countP (retainsIn number) = retained

variable {calls : List PoolCall} {call : PoolCall} {number threshold retained : Nat}

theorem leaveOpen_append_singleton :
    LeaveOpen (calls ++ [call]) number threshold retained ↔
      (call = .openScope threshold ∧ calls.countP opens = number ∧ retained = 0) ∨
        call ≠ .close number ∧ ∃ earlier, LeaveOpen calls number threshold earlier ∧
          earlier + (call.retainsIn number).toNat = retained := by
  constructor
  · rintro ⟨before, later, split, opened, stays, counted⟩
    rcases List.eq_nil_or_concat later with rfl | ⟨between, last, rfl⟩
    · obtain ⟨rfl, same⟩ := List.append_inj' split rfl
      exact .inl ⟨List.singleton_inj.mp same, opened, counted.symm⟩
    · have regrouped : calls ++ [call] =
          (before ++ .openScope threshold :: between) ++ [last] := by
        rw [split]
        simp
      obtain ⟨rfl, same⟩ := List.append_inj' regrouped rfl
      obtain rfl := List.singleton_inj.mp same
      rw [List.concat_eq_append, List.mem_append, not_or, List.mem_singleton] at stays
      refine .inr ⟨Ne.symm stays.2, _, ⟨before, between, rfl, opened, stays.1, rfl⟩, ?_⟩
      rw [← counted, List.concat_eq_append, List.countP_append]
      cases found : call.retainsIn number <;> simp [found]
  · rintro (⟨rfl, opened, rfl⟩ | ⟨stays, earlier, ⟨before, later, rfl, opened, open', rfl⟩, rfl⟩)
    · exact ⟨calls, [], rfl, opened, by simp, rfl⟩
    · refine ⟨before, later ++ [call], by simp, opened, ?_, ?_⟩
      · rw [List.mem_append, not_or, List.mem_singleton]
        exact ⟨open', Ne.symm stays⟩
      · rw [List.countP_append]
        cases found : call.retainsIn number <;> simp [found]

end PoolCall

namespace Pool

/-- A scope is open, with a threshold and so many resources. -/
def HasOpen (p : Pool) (number threshold retained : Nat) : Prop :=
  ∃ scope, p.scope? number = some scope ∧ scope.threshold = threshold ∧
    scope.held.length = retained

variable {p : Pool} {number threshold retained : Nat}

theorem length_scopes_respond (p : Pool) (call : PoolCall) :
    (p.respond call).1.scopes.length = p.scopes.length + call.opens.toNat := by
  cases call with
  | openScope threshold => simp [respond, openScope, PoolCall.opens]
  | retain number data =>
      simp only [respond]
      split <;> simp [retainIn, PoolCall.opens]
  | read number handle =>
      simp only [respond]
      split <;> rfl
  | close number =>
      simp only [respond, close]
      split <;> simp [PoolCall.opens]

theorem scope?_openScope (p : Pool) (threshold number : Nat) :
    (p.openScope threshold).scope? number =
      if p.scopes.length = number then some (Scope.ofThreshold threshold) else p.scope? number := by
  rcases Nat.lt_trichotomy number p.scopes.length with inside | rfl | beyond
  · simp [openScope, scope?, List.getElem?_append_left inside, Nat.ne_of_gt inside]
  · simp [openScope, scope?]
  · have absent : p.scopes[number]? = none := List.getElem?_eq_none (Nat.le_of_lt beyond)
    have last : (p.scopes ++ [some (Scope.ofThreshold threshold)])[number]? = none :=
      List.getElem?_eq_none (by rw [List.length_append]; exact beyond)
    simp only [openScope, scope?, absent, last, if_neg (Nat.ne_of_lt beyond)]

theorem scope?_of_set {q : Pool} {entry : Option Scope} {scope : Scope} {holder : Nat}
    (found : p.scope? holder = some scope) (replaced : q.scopes = p.scopes.set holder entry) :
    q.scope? number = if holder = number then entry else p.scope? number := by
  have inside : holder < p.scopes.length :=
    (List.getElem?_eq_some_iff.mp (Option.join_eq_some_iff.mp found)).1
  rw [Pool.scope?, replaced]
  by_cases same : holder = number
  · subst same
    simp [inside]
  · simp [Pool.scope?, List.getElem?_set_ne same, same]

theorem scope?_retain (p : Pool) (holder : Nat) (data : Bytes) (number : Nat) :
    (p.respond (.retain holder data)).1.scope? number =
      if holder = number then
        (p.scope? number).map fun scope => scope.add (scope.store p.folder data).1
      else p.scope? number := by
  cases found : p.scope? holder with
  | none =>
      simp only [respond, found]
      split
      · next same => rw [← same, found, Option.map_none]
      · rfl
  | some scope =>
      simp only [respond, found]
      rw [scope?_of_set found rfl]
      split
      · next same =>
          rw [← same, found]
          rfl
      · rfl

theorem scope?_close (p : Pool) (closed number : Nat) :
    (p.close closed).scope? number = if closed = number then none else p.scope? number := by
  cases found : p.scope? closed with
  | none =>
      simp only [close, found]
      split
      · next same => rw [← same, found]
      · rfl
  | some scope =>
      simp only [close, found]
      exact scope?_of_set found rfl

theorem hasOpen_respond (p : Pool) (call : PoolCall) :
    (p.respond call).1.HasOpen number threshold retained ↔
      (call = .openScope threshold ∧ p.scopes.length = number ∧ retained = 0) ∨
        call ≠ .close number ∧ ∃ earlier, p.HasOpen number threshold earlier ∧
          earlier + (call.retainsIn number).toNat = retained := by
  cases call with
  | openScope opened =>
      simp only [HasOpen, respond, scope?_openScope]
      split
      · next new =>
          have fresh : p.scope? number = none := by simp [scope?, ← new]
          simp [fresh, new, Scope.ofThreshold, eq_comm]
      · next old => simp [old, PoolCall.retainsIn, and_assoc]
  | retain holder data =>
      by_cases same : holder = number
      · subst same
        simp [HasOpen, scope?_retain, PoolCall.retainsIn, Scope.add, and_assoc]
      · have kept : (holder == number) = false := beq_false_of_ne same
        simp [HasOpen, scope?_retain, same, kept, PoolCall.retainsIn]
  | read holder handle =>
      have unchanged : (p.respond (.read holder handle)).1 = p := by
        simp only [respond]
        split <;> rfl
      simp [HasOpen, unchanged, PoolCall.retainsIn]
  | close closed =>
      simp only [HasOpen, respond, scope?_close]
      split
      · next same => simp [same]
      · next other => simp [other, PoolCall.retainsIn, and_assoc]

theorem after_append (p : Pool) (calls more : List PoolCall) :
    p.after (calls ++ more) = (p.after calls).after more :=
  List.foldl_append

theorem after_append_singleton (p : Pool) (calls : List PoolCall) (call : PoolCall) :
    p.after (calls ++ [call]) = ((p.after calls).respond call).1 := by
  rw [after_append]
  rfl

theorem length_scopes_after (calls : List PoolCall) :
    (empty.after calls).scopes.length = calls.countP PoolCall.opens := by
  induction calls using List.reverseRecOn with
  | nil => rfl
  | append_singleton calls call inductionHypothesis =>
      rw [after_append_singleton, length_scopes_respond, inductionHypothesis, List.countP_append]
      cases opens : call.opens <;> simp [opens]

/-- A scope is open exactly if the calls have opened it and not closed it since. -/
theorem hasOpen_after_iff (calls : List PoolCall) :
    (empty.after calls).HasOpen number threshold retained ↔
      PoolCall.LeaveOpen calls number threshold retained := by
  induction calls using List.reverseRecOn generalizing retained with
  | nil =>
      refine iff_of_false ?_ ?_
      · rintro ⟨scope, found, -⟩
        simp [after, empty, scope?] at found
      · rintro ⟨before, later, split, -⟩
        exact absurd split (by simp)
  | append_singleton calls call inductionHypothesis =>
      rw [after_append_singleton, hasOpen_respond, length_scopes_after,
        PoolCall.leaveOpen_append_singleton]
      simp only [inductionHypothesis]

end Pool

/-! ## Accounts -/

namespace Pool

def held (p : Pool) : List (Nat × Storage) :=
  p.scopes.reduceOption.flatMap fun scope =>
    scope.held.map fun storage => (scope.threshold, storage)

/-- The number of resources held that are longer than the threshold of their scope. -/
def oversized (p : Pool) : Nat :=
  p.held.countP fun (threshold, storage) =>
    (storage.read? p.folder).any fun data => threshold < data.length

variable {p : Pool} {l : Ledger}

theorem Follows.held_eq (follows : p.Follows l) :
    p.held = l.reduceOption.flatMap fun s => s.held.map fun k => (s.threshold, k.storage) := by
  rw [Pool.held, follows.scopes, List.reduceOption_map, List.flatMap_map]
  simp [KeptScope.scope, Function.comp_def]

theorem Follows.length_held (follows : p.Follows l) : p.held.length = l.kept.length := by
  simp [follows.held_eq, Ledger.kept, List.length_flatMap]

theorem Follows.oversized_eq (follows : p.Follows l) : p.oversized = l.entries.length := by
  have counted : ∀ s ∈ l.reduceOption,
      (s.held.map fun k => (s.threshold, k.storage)).countP (fun (threshold, storage) =>
        (storage.read? p.folder).any fun data => threshold < data.length) =
      s.held.countP fun k => k.spoolFile?.isSome := by
    intro s member
    rw [List.countP_map]
    refine List.countP_congr fun k kept => ?_
    simp [follows.read?_storage member kept, follows.sorted s member k kept]
  rw [oversized, follows.held_eq, Ledger.entries, Kept.entries, Ledger.kept,
    List.length_filterMap_eq_countP, List.countP_flatMap, List.countP_flatMap]
  exact congrArg List.sum (List.map_congr_left counted)

/-- After any calls just those scopes are open that the calls have opened and not closed since,
each with what was retained in it; the tracker counts what they hold and the spool files of
the large resources among it; data that is retained then reads back, from a file or not,
through every sequence of calls that does not close its scope. -/
theorem accounts_after (calls : List PoolCall) :
    let p := empty.after calls
    (∀ number threshold retained, p.HasOpen number threshold retained ↔
      PoolCall.LeaveOpen calls number threshold retained) ∧
    p.tracker.acquired = p.tracker.released + p.held.length ∧
    p.tracker.outstanding = p.held.length ∧
    p.tracker.outstandingSpooled = p.folder.files.length ∧
    p.folder.files.length = p.oversized ∧
    ∀ number scope data, p.scope? number = some scope →
      let large := decide (scope.threshold < data.length)
      (p.respond (.retain number data)).2 = .retained scope.held.length large ∧
      ∀ later, .close number ∉ later →
        (((p.respond (.retain number data)).1.after later).respond
            (.read number scope.held.length)).2 =
          .read (.ok { data, isSpooled := large }) := by
  intro p
  obtain ⟨l, follows⟩ := Follows.empty.exists_after calls
  have acquired : p.tracker.acquired = p.tracker.released + p.held.length := by
    rw [follows.acquired, follows.length_held]
  have spooled : p.tracker.spooled = p.tracker.spoolRemoved + p.folder.files.length := by
    rw [follows.spooled, follows.files.length_eq]
  refine ⟨fun _ _ _ => hasOpen_after_iff calls, acquired, ?_, ?_, ?_,
    fun number scope data found => ?_⟩
  · rw [Tracker.outstanding, acquired, Nat.add_sub_cancel_left]
  · rw [Tracker.outstandingSpooled, spooled, Nat.add_sub_cancel_left]
  · rw [follows.files.length_eq, follows.oversized_eq]
  · rw [follows.scope?, Option.map_eq_some_iff] at found
    obtain ⟨s, found, rfl⟩ := found
    rw [KeptScope.length_held_scope]
    exact ⟨follows.respond_retain found data,
      fun later stays => follows.respond_read_after found data stays⟩

/-- Two scopes with different thresholds; the first one is closed after data went to the
second one, where it still reads back. -/
theorem accounts_after_twoScopes :
    let calls : List PoolCall :=
      [.openScope 2, .retain 0 [1, 2, 3], .openScope 1, .retain 0 [4], .retain 1 [5]]
    let p := empty.after calls
    let later : List PoolCall := [.retain 0 [9, 9, 9], .close 0, .retain 1 [6, 7, 8]]
    p.HasOpen 0 2 2 ∧ p.HasOpen 1 1 1 ∧
    PoolCall.close 1 ∉ later ∧
    p.folder.files.length = 1 ∧
    (p.respond (.retain 1 [7, 7])).2 = .retained 1 true ∧
    (((p.respond (.retain 1 [7, 7])).1.after later).respond (.read 1 1)).2 =
      .read (.ok { data := [7, 7], isSpooled := true }) := by
  intro calls p later
  have stays : PoolCall.close 1 ∉ later := by decide
  obtain ⟨isOpen, -, -, -, -, reads⟩ := accounts_after calls
  have first : p.HasOpen 0 2 2 := (isOpen 0 2 2).mpr ⟨[], _, rfl, rfl, by decide, rfl⟩
  have second : p.HasOpen 1 1 1 :=
    (isOpen 1 1 1).mpr ⟨calls.take 2, calls.drop 3, rfl, rfl, by decide, rfl⟩
  obtain ⟨reply, readBack⟩ := reads 1 { threshold := 1, held := [.memory [5]] } [7, 7] (by decide)
  exact ⟨first, second, stays, by decide, reply, readBack later stays⟩

end Pool

end Ebms
