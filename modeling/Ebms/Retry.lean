import Ebms.Decimal.Dyadic
import Ebms.Time.Span

/-! # Retry policies

A transmission that fails for a passing reason is tried again, a bounded number
of times and after a wait.  The wait stays the same or grows by a factor from
retry to retry, up to a cap.  The growth is computed in doubles; a result that
is no length of time is replaced by the cap. -/

set_option autoImplicit false

namespace Ebms

namespace Span

def toFloatSeconds (s : Span) : Float :=
  (UInt64.ofNat s.seconds).toFloat + (UInt64.ofNat s.subsecond).toFloat / 1000000000.0

/-- The span of a number of seconds, to the nearest nanosecond; none for a
number below zero and for one that no span reaches. -/
def ofFloatSeconds? (seconds : Float) : Option Span :=
  match Dyadic.ofFloat? seconds with
  | none => none
  | some d =>
    if (hasMinusSign seconds && d.mantissa != 0) || d.reaches 64 then none
    else some { nanos := d.scaled perSecond }

def min (a b : Span) : Span := if a.nanos ≤ b.nanos then a else b

end Span

/-- `base` to the power `exponent`, by repeated squaring: `product` is multiplied
by the current square wherever the exponent has a one.  `fuel` bounds the number
of binary digits of the exponent. -/
def powerFrom (product base : Float) (exponent : Nat) : Nat → Float
  | 0 => product
  | fuel + 1 =>
    if exponent = 0 then product
    else
      powerFrom (if exponent % 2 = 1 then product * base else product) (base * base)
        (exponent / 2) fuel

def power (base : Float) (exponent : Nat) : Float := powerFrom 1.0 base exponent 32

inductive Backoff where
  | fixed
  /-- Each wait is the one before times `multiplier`, but at most `longest`. -/
  | exponential (multiplier : Float) (longest : Span)
  deriving Inhabited

def Backoff.kind : Backoff → String
  | .fixed => "fixed"
  | .exponential .. => "exponential"

structure RetryPolicy where
  maxRetries : UInt32
  interval : Span
  backoff : Backoff
  deriving Inhabited

namespace RetryPolicy

/-- The most transmissions that a counter of 32 bits can number. -/
def mostAttempts : Nat := UInt32.size - 1

def mostGrowth : Nat := Nat.pow 2 31 - 1

/-- How many transmissions the policy allows: the first one and the retries. -/
def maxAttempts (policy : RetryPolicy) : Nat :=
  Nat.min (policy.maxRetries.toNat + 1) mostAttempts

def delay (policy : RetryPolicy) (retry : Nat) : Span :=
  match policy.backoff with
  | .fixed => policy.interval
  | .exponential multiplier longest =>
    let growth := power multiplier (Nat.min (retry - 1) mostGrowth)
    match Span.ofFloatSeconds? (policy.interval.toFloatSeconds * growth) with
    | none => longest
    | some wait => wait.min longest

end RetryPolicy

end Ebms
