import Ebms.Exchange.Observer
import Ebms.Rehearsal

/-! # Scripted partners

A rehearsed partner follows a script: one outcome for each transmission in
order, and one for all that come after.  What the observers of an exchange were
told can be gathered by kind. -/

set_option autoImplicit false

namespace Ebms.Rehearsal

structure Script where
  steps : List Outcome
  otherwise : Outcome
  deriving DecidableEq, Repr, Inhabited

namespace Script

/-- The outcome of a transmission, counted from one, after `made` others were
made. -/
def outcomeAfter (s : Script) (made n : Nat) : Outcome := (s.steps[made + n - 1]?).getD s.otherwise

end Script

structure Recording where
  built : List String
  signed : List String
  /-- The failed attempts that were followed by another one, and their causes. -/
  retries : List (Nat × TransportError)
  /-- Ids of messages sent, with their bodies. -/
  outgoing : List (String × Bytes)
  incoming : List (String × Bytes)
  responses : List Answer
  userMessages : List (UserMessage × List Attachment)
  deriving DecidableEq, Repr, Inhabited

namespace Recording

def empty : Recording :=
  { built := [], signed := [], retries := [], outgoing := [], incoming := [], responses := [],
    userMessages := [] }

def record (r : Recording) : Notice → Recording
  | .built e => { r with built := r.built ++ [e.messageId] }
  | .signed e => { r with signed := r.signed ++ [e.messageId] }
  | .retry attempt cause => { r with retries := r.retries ++ [(attempt, cause)] }
  | .outgoing id _ body => { r with outgoing := r.outgoing ++ [(id, body)] }
  | .incoming id _ body => { r with incoming := r.incoming ++ [(id, body)] }
  | .response answer => { r with responses := r.responses ++ [answer] }
  | .userMessage message attachments =>
    { r with userMessages := r.userMessages ++ [(message, attachments)] }

def ofNotices (notices : List Notice) : Recording := notices.foldl record empty

end Recording

end Ebms.Rehearsal
