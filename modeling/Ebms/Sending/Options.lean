import Ebms.Exchange.Observer
import Ebms.Mode.Basic
import Ebms.Security.Basic
import Ebms.Time.Span

/-! # Options of a message

What can be stated for any message to be sent.  Everything may be left open; a
blank text counts as left open, and so does a negative number. -/

set_option autoImplicit false

namespace Ebms

def notBlank (value : Option String) : Option String := value.filter (!Text.isAllBlank ·)

structure Options where
  messageId : Option String
  endpoint : Option String
  sendingTime : Option Instant
  maxRetries : Option Int
  retryMilliseconds : Option Int
  soap : Option SoapVersion
  modeId : Option String
  credentials : Option Credentials
  observers : Observers

namespace Options

def none : Options :=
  { messageId := .none, endpoint := .none, sendingTime := .none, maxRetries := .none,
    retryMilliseconds := .none, soap := .none, modeId := .none, credentials := .none,
    observers := .none }

instance : Inhabited Options := ⟨none⟩

def explicitMessageId (o : Options) : Option String := notBlank o.messageId

def hasEndpoint (o : Options) : Bool := (notBlank o.endpoint).isSome

/-- The options with a retry interval given as a span, cut to milliseconds that
fit 63 bits. -/
def withRetryInterval (o : Options) (interval : Span) : Options :=
  { o with retryMilliseconds := some (min (interval.milliseconds : Int) Int64.maxValue.toInt) }

/-- The retry policy: each of count and interval as stated, or else as the mode
has it, or else as the sender has it; the backoff never is stated. -/
def resolveRetry (o : Options) (mode : Option ProcessingMode) (defaults : RetryPolicy) :
    RetryPolicy :=
  let base := (mode.bind (·.retry)).getD defaults
  let maxRetries := match o.maxRetries with
    | some (.ofNat count) => UInt32.ofNat (min count (UInt32.size - 1))
    | _ => base.maxRetries
  let interval := match o.retryMilliseconds with
    | some (.ofNat count) => Span.ofMilliseconds count
    | _ => base.interval
  { maxRetries, interval, backoff := base.backoff }

end Options

end Ebms
