import Ebms.Datum

/-! # Tables of TOML

While a document is read, its tables remember how they came about, since that
decides what may be added to them: a table with a header of its own is closed to
paths with points and to a second header; one that only longer headers mention
may still get a header; one made by a path with points may grow by such paths. -/

set_option autoImplicit false

namespace Ebms.Toml

inductive TableKind where
  | stated
  | implied
  | dotted
  deriving DecidableEq, Repr, Inhabited

inductive Node where
  | value (datum : Datum)
  | table (kind : TableKind) (entries : List (String × Node))
  /-- The tables of a repeated header, last one first. -/
  | tables (last : List (String × Node)) (before : List (List (String × Node)))
  deriving Inhabited

abbrev Entries := List (String × Node)

def alter (name : String) (change : Option Node → Option Node) : Entries → Option Entries
  | [] => (change none).map fun node => [(name, node)]
  | (other, node) :: rest =>
    if other = name then (change (some node)).map fun node => (other, node) :: rest
    else (alter name change rest).map ((other, node) :: ·)

def insert (datum : Datum) : String → List String → Entries → Option Entries
  | name, [], entries =>
    alter name (fun
      | none => some (.value datum)
      | some _ => none) entries
  | name, next :: more, entries =>
    alter name (fun
      | none => (insert datum next more []).map (.table .dotted)
      | some (.table kind inner) =>
        if kind = .stated ∨ (more.isEmpty ∧ kind ≠ .dotted) then none
        else (insert datum next more inner).map (.table kind)
      | some (.tables last before) =>
        if more.isEmpty then none
        else (insert datum next more last).map (.tables · before)
      | some (.value _) => none) entries

/-- Does something at the end of a path; tables on the way that are not there yet
are implied. -/
def atHeader (change : Option Node → Option Node) :
    String → List String → Entries → Option Entries
  | name, [], entries => alter name change entries
  | name, next :: more, entries =>
    alter name (fun
      | none => (atHeader change next more []).map (.table .implied)
      | some (.table kind inner) => (atHeader change next more inner).map (.table kind)
      | some (.tables last before) => (atHeader change next more last).map (.tables · before)
      | some (.value _) => none) entries

def stateTable : Option Node → Option Node
  | none => some (.table .stated [])
  | some (.table .implied inner) => some (.table .stated inner)
  | some _ => none

/-- What a repeated header makes of what is there. -/
def addTable : Option Node → Option Node
  | none => some (.tables [] [])
  | some (.tables last before) => some (.tables [] (last :: before))
  | some _ => none

def inTable (change : Entries → Option Entries) : List String → Entries → Option Entries
  | [], entries => change entries
  | name :: path, entries =>
    alter name (fun
      | some (.table kind inner) => (inTable change path inner).map (.table kind)
      | some (.tables last before) => (inTable change path last).map (.tables · before)
      | _ => none) entries

mutual

def Node.toDatum : Node → Datum
  | .value datum => datum
  | .table _ entries => .table (datumEntries entries)
  | .tables last before => .list (datumTables [.table (datumEntries last)] before)

def datumEntries : List (String × Node) → List (String × Datum)
  | [] => []
  | (name, node) :: rest => (name, node.toDatum) :: datumEntries rest

def datumTables (later : List Datum) : List (List (String × Node)) → List Datum
  | [] => later
  | entries :: before => datumTables (.table (datumEntries entries) :: later) before

end

end Ebms.Toml
