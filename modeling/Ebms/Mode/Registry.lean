import Ebms.Mode.Basic

/-! # Registries

Processing modes and message partition channels are looked up by id.  The
default channel is always known. -/

set_option autoImplicit false

namespace Ebms

inductive LookupError where
  | unknownMode (id : String)
  | unknownChannel (id : String)
  | unavailable (reason : String)
  deriving DecidableEq, Repr, Inhabited

def LookupError.message : LookupError → String
  | .unknownMode id => "PMode not found: " ++ id
  | .unknownChannel id => "MPC not found: " ++ id
  | .unavailable reason => "Lookup backend failure: " ++ reason

/-- Processing modes, no two with one id. -/
structure ModeRegistry where
  modes : List ProcessingMode
  deriving Inhabited

namespace ModeRegistry

def empty : ModeRegistry := { modes := [] }

def find? (r : ModeRegistry) (id : String) : Option ProcessingMode := r.modes.find? (·.id == id)

def resolve (r : ModeRegistry) (id : String) : Except LookupError ProcessingMode :=
  match r.find? id with
  | some mode => .ok mode
  | none => .error (.unknownMode id)

def remove (r : ModeRegistry) (id : String) : ModeRegistry :=
  { modes := r.modes.filter (·.id != id) }

def register (r : ModeRegistry) (mode : ProcessingMode) : ModeRegistry :=
  { modes := mode :: (r.remove mode.id).modes }

/-- The registry of some modes; of two with one id the later one counts. -/
def ofModes (modes : List ProcessingMode) : ModeRegistry := modes.foldl register empty

end ModeRegistry

structure Channel where
  id : String
  deriving DecidableEq, Repr, Inhabited

namespace Channel

def objectType : String := "as4.mpc"

def isDefault (c : Channel) : Bool := c.id == defaultChannel

end Channel

/-- The channels that are known, the default one among them. -/
structure ChannelRegistry where
  ids : List String
  default_known : defaultChannel ∈ ids

namespace ChannelRegistry

def standard : ChannelRegistry := { ids := [defaultChannel], default_known := by simp }

def register (r : ChannelRegistry) (id : String) : ChannelRegistry :=
  { ids := id :: r.ids, default_known := List.mem_cons_of_mem id r.default_known }

def ofIds (ids : List String) : ChannelRegistry := ids.foldl register standard

def resolve (r : ChannelRegistry) (id : String) : Except LookupError Channel :=
  if id ∈ r.ids then .ok { id } else .error (.unknownChannel id)

end ChannelRegistry

end Ebms
