import Ebms.Exchange.Error
import Ebms.Security.Verification

/-! # Observers of an exchange

The caller of an exchange may watch it at six places.  Every observer but the
one of retries can refuse, which ends the exchange. -/

set_option autoImplicit false

namespace Ebms

structure Answer where
  requestMessageId : String
  /-- Transmissions made, the answered one included. -/
  attempts : Nat
  status : Nat
  /-- The message received; none for a blank body. -/
  envelope : Option Envelope
  /-- Present when the message received was signed and could be verified. -/
  verified : Option Verified
  deriving DecidableEq, Repr, Inhabited

namespace Answer

def userMessage? (a : Answer) : Option UserMessage := a.envelope.bind Envelope.userMessage?

def receipt? (a : Answer) : Option MessageInfo :=
  a.envelope.bind fun e =>
    match e.unit with
    | .receipt info => some info
    | _ => none

def attachments (a : Answer) : List Attachment := (a.envelope.map (·.attachments)).getD []

/-- Whether nothing was delivered: no message, or word that the channel is
empty. -/
def isEmpty (a : Answer) : Bool :=
  match a.envelope with
  | none => true
  | some e =>
    match e.unit with
    | .errorSignal _ errors => isEmptyChannel errors
    | _ => false

end Answer

inductive ObserverSlot where
  | build
  | retry
  | outgoing
  | incoming
  | response
  | userMessage
  deriving DecidableEq, Repr, Inhabited

/-- What an observer is told. -/
inductive Notice where
  | built (envelope : Envelope)
  | signed (envelope : Envelope)
  | retry (attempt : Nat) (cause : TransportError)
  | outgoing (messageId contentType : String) (body : Bytes)
  | incoming (messageId : String) (contentType : Option String) (body : Bytes)
  | response (answer : Answer)
  | userMessage (message : UserMessage) (attachments : List Attachment)
  deriving DecidableEq, Repr, Inhabited

def Notice.slot : Notice → ObserverSlot
  | .built _ | .signed _ => .build
  | .retry .. => .retry
  | .outgoing .. => .outgoing
  | .incoming .. => .incoming
  | .response _ => .response
  | .userMessage .. => .userMessage

def Notice.kind : Notice → String
  | .built _ => "built"
  | .signed _ => "signed"
  | .retry .. => "retry"
  | .outgoing .. => "outgoing"
  | .incoming .. => "incoming"
  | .response _ => "response"
  | .userMessage .. => "user_message"

/-- Why an observer refuses: with a failure of exchanges, or for a reason of its
own. -/
inductive Refusal where
  | failure (error : ExchangeError)
  | other (reason : String)
  deriving DecidableEq, Repr, Inhabited

def Refusal.toError : Refusal → ExchangeError
  | .failure error => error
  | .other reason => .wrapped reason

/-- The observers of an exchange: which places are watched, and how each notice
is answered. -/
structure Observers where
  watches : ObserverSlot → Bool
  reply : Notice → Except Refusal Unit

namespace Observers

def none : Observers := { watches := fun _ => false, reply := fun _ => .ok () }

instance : Inhabited Observers := ⟨none⟩

def text (o : Observers) : String :=
  let field (name : String) (slot : ObserverSlot) : String :=
    name ++ ": " ++ (if o.watches slot then "true" else "false")
  "ExchangeHooks \x7b " ++ ", ".intercalate
    [field "build_callback" .build, field "retry_callback" .retry,
      field "outgoing_dumper" .outgoing, field "incoming_dumper" .incoming,
      field "response_consumer" .response, field "user_message_consumer" .userMessage]
    ++ " \x7d"

end Observers

end Ebms
