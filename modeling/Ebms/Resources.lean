import Ebms.Bytes

/-! # Resources of an exchange

Bodies that an exchange works on are retained in a scope and released together when the scope
closes.  Data that is longer than the threshold of the scope lies in a spool file, all other
data in memory.  A file belongs to the resource that it was made for and is removed when that
is released; that the removal of a file may fail is left out.  A tracker counts what is
acquired and released; scopes share it, and the folder of the spool files with it.  A handle is
a position in a scope; it reads whatever the scope it is used with holds
there. -/

set_option autoImplicit false

namespace Ebms

/-- The size above which data goes to a spool file, unless stated otherwise. -/
def defaultSpoolThreshold : Nat := 1048576

structure Tracker where
  acquired : Nat
  released : Nat
  spooled : Nat
  spoolRemoved : Nat
  deriving DecidableEq, Repr, Inhabited

namespace Tracker

def empty : Tracker := { acquired := 0, released := 0, spooled := 0, spoolRemoved := 0 }

def outstanding (t : Tracker) : Nat := t.acquired - t.released

def outstandingSpooled (t : Tracker) : Nat := t.spooled - t.spoolRemoved

def acquire (t : Tracker) (isSpooled : Bool) : Tracker :=
  { t with acquired := t.acquired + 1, spooled := t.spooled + isSpooled.toNat }

def release (t : Tracker) (isSpooled : Bool) : Tracker :=
  { t with released := t.released + 1, spoolRemoved := t.spoolRemoved + isSpooled.toNat }

end Tracker

inductive ResourceError where
  /-- The handle is no position in the scope. -/
  | foreignHandle
  | missingFile
  deriving DecidableEq, Repr, Inhabited

def ResourceError.message : ResourceError → String
  | .foreignHandle => "resource handle from another scope"
  | .missingFile => "no such spool file"

/-- Retained data as it is read, from memory or from a spool file. -/
structure Resource where
  data : Bytes
  isSpooled : Bool
  deriving DecidableEq, Repr, Inhabited

/-- The spool files that exist, by name.  No name has two files, and none is taken that a new
file would get. -/
structure SpoolFolder where
  files : List (Nat × Bytes)
  nextName : Nat
  nodup : (files.map Prod.fst).Nodup
  fresh : ∀ name ∈ files.map Prod.fst, name < nextName
  deriving DecidableEq, Repr

namespace SpoolFolder

def empty : SpoolFolder :=
  { files := [], nextName := 0, nodup := List.nodup_nil, fresh := fun _ member => nomatch member }

instance : Inhabited SpoolFolder := ⟨empty⟩

def create (f : SpoolFolder) (data : Bytes) : SpoolFolder where
  files := f.files ++ [(f.nextName, data)]
  nextName := f.nextName + 1
  nodup := by
    rw [List.map_append, List.nodup_append]
    refine ⟨f.nodup, List.pairwise_singleton _ _, fun name old next new => ?_⟩
    rw [List.eq_of_mem_singleton new]
    exact Nat.ne_of_lt (f.fresh name old)
  fresh name member := by
    rw [List.map_append, List.mem_append] at member
    rcases member with old | new
    · exact Nat.lt_succ_of_lt (f.fresh name old)
    · rw [List.eq_of_mem_singleton new]
      exact Nat.lt_succ_self _

def without (f : SpoolFolder) (names : List Nat) : SpoolFolder where
  files := f.files.filter (·.1 ∉ names)
  nextName := f.nextName
  nodup := f.nodup.sublist (List.filter_sublist.map Prod.fst)
  fresh name member := f.fresh name ((List.filter_sublist.map Prod.fst).subset member)

def read? (f : SpoolFolder) (name : Nat) : Option Bytes := f.files.lookup name

end SpoolFolder

inductive Storage where
  | memory (data : Bytes)
  | spooled (name : Nat)
  deriving DecidableEq, Repr, Inhabited

namespace Storage

def isSpooled : Storage → Bool
  | memory _ => false
  | spooled _ => true

/-- The data, read back from its file if it lies in one. -/
def read? (folder : SpoolFolder) : Storage → Option Bytes
  | memory data => some data
  | spooled name => folder.read? name

def discard (folder : SpoolFolder) : Storage → SpoolFolder
  | memory _ => folder
  | spooled name => folder.without [name]

end Storage

/-- The resources of one exchange, oldest first, each where it lies. -/
structure Scope where
  threshold : Nat
  held : List Storage
  deriving DecidableEq, Repr, Inhabited

namespace Scope

def ofThreshold (threshold : Nat) : Scope := { threshold, held := [] }

def store (s : Scope) (folder : SpoolFolder) (data : Bytes) : Storage × SpoolFolder :=
  if s.threshold < data.length then (.spooled folder.nextName, folder.create data)
  else (.memory data, folder)

def add (s : Scope) (storage : Storage) : Scope := { s with held := s.held ++ [storage] }

def read (s : Scope) (folder : SpoolFolder) (handle : Nat) : Except ResourceError Resource :=
  match s.held[handle]? with
  | none => .error .foreignHandle
  | some storage =>
    match storage.read? folder with
    | none => .error .missingFile
    | some data => .ok { data, isSpooled := storage.isSpooled }

/-- Releases everything a scope holds, one resource after the other. -/
def close (s : Scope) (tracker : Tracker) (folder : SpoolFolder) : Tracker × SpoolFolder :=
  s.held.foldl
    (fun (tracker, folder) storage => (tracker.release storage.isSpooled, storage.discard folder))
    (tracker, folder)

end Scope

/-- A scope with the tracker and the folder that it shares with other scopes. -/
structure Holding where
  tracker : Tracker
  folder : SpoolFolder
  scope : Scope
  deriving DecidableEq, Repr, Inhabited

namespace Holding

def opened (tracker : Tracker) (folder : SpoolFolder) (threshold : Nat) : Holding :=
  { tracker, folder, scope := .ofThreshold threshold }

/-- Data retained in the scope; its handle is the number of resources held before. -/
def retain (h : Holding) (data : Bytes) : Holding :=
  let (storage, folder) := h.scope.store h.folder data
  { tracker := h.tracker.acquire storage.isSpooled, folder, scope := h.scope.add storage }

def read (h : Holding) (handle : Nat) : Except ResourceError Resource :=
  h.scope.read h.folder handle

def close (h : Holding) : Holding :=
  let (tracker, folder) := h.scope.close h.tracker h.folder
  { tracker, folder, scope := .ofThreshold h.scope.threshold }

end Holding

end Ebms
