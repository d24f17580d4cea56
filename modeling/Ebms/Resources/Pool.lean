import Ebms.Resources

/-! # Scopes side by side

Scopes are opened, used and closed in any order; they share one tracker and one folder of
spool files. -/

set_option autoImplicit false

namespace Ebms

/-- All scopes over one tracker and one folder, by number; a closed one is gone. -/
structure Pool where
  tracker : Tracker
  folder : SpoolFolder
  scopes : List (Option Scope)
  deriving DecidableEq, Repr, Inhabited

inductive PoolCall where
  | openScope (threshold : Nat)
  | retain (number : Nat) (data : Bytes)
  | read (number handle : Nat)
  | close (number : Nat)
  deriving DecidableEq, Repr, Inhabited

inductive PoolReply where
  | opened (number : Nat)
  | retained (handle : Nat) (isSpooled : Bool)
  | read (result : Except ResourceError Resource)
  | closed
  | notOpen

namespace Pool

def empty : Pool := { tracker := .empty, folder := .empty, scopes := [] }

def scope? (p : Pool) (number : Nat) : Option Scope := p.scopes[number]?.join

def holding (p : Pool) (scope : Scope) : Holding :=
  { tracker := p.tracker, folder := p.folder, scope }

/-- Opens a scope; its number is the number of scopes opened before. -/
def openScope (p : Pool) (threshold : Nat) : Pool :=
  { p with scopes := p.scopes ++ [some (Scope.ofThreshold threshold)] }

def retainIn (p : Pool) (number : Nat) (scope : Scope) (data : Bytes) : Pool :=
  let h := (p.holding scope).retain data
  { tracker := h.tracker, folder := h.folder, scopes := p.scopes.set number (some h.scope) }

def close (p : Pool) (number : Nat) : Pool :=
  match p.scope? number with
  | none => p
  | some scope =>
    let h := (p.holding scope).close
    { tracker := h.tracker, folder := h.folder, scopes := p.scopes.set number none }

def respond (p : Pool) : PoolCall → Pool × PoolReply
  | .openScope threshold => (p.openScope threshold, .opened p.scopes.length)
  | .retain number data =>
    match p.scope? number with
    | none => (p, .notOpen)
    | some scope =>
      (p.retainIn number scope data,
        .retained scope.held.length (scope.store p.folder data).1.isSpooled)
  | .read number handle =>
    match p.scope? number with
    | none => (p, .notOpen)
    | some scope => (p, .read ((p.holding scope).read handle))
  | .close number => (p.close number, .closed)

def after (p : Pool) (calls : List PoolCall) : Pool :=
  calls.foldl (fun p call => (p.respond call).1) p

end Pool

end Ebms
