import Ebms.Text.Trim

/-! # Lengths of time

A span is a whole number of nanoseconds.  It is shown as seconds and
nanoseconds, or in words of at most one unit. -/

set_option autoImplicit false

namespace Ebms

structure Span where
  nanos : Nat
  deriving DecidableEq, Repr, Inhabited

namespace Span

def perSecond : Nat := 1000000000

def ofParts (seconds nanos : Nat) : Span := { nanos := seconds * perSecond + nanos }

def ofSeconds (seconds : Nat) : Span := ofParts seconds 0

def ofMilliseconds (count : Nat) : Span := { nanos := count * 1000000 }

def seconds (s : Span) : Nat := s.nanos / perSecond

def subsecond (s : Span) : Nat := s.nanos % perSecond

def milliseconds (s : Span) : Nat := s.nanos / 1000000

/-- The longest span: 2^64 - 1 seconds and 999999999 nanoseconds. -/
def longest : Span := ofParts (UInt64.size - 1) 999999999

def decimalText (whole fraction width : Nat) : String :=
  let places := Text.dropEndWhile (· == '0') (Text.padded width fraction).toList
  if places.isEmpty then Text.ofNat whole
  else Text.ofNat whole ++ "." ++ String.ofList places

/-- The span in the largest of seconds, milliseconds, microseconds and
nanoseconds of which it holds one. -/
def unitText (s : Span) : String :=
  if s.nanos ≥ 1000000000 then
    decimalText (s.nanos / 1000000000) (s.nanos % 1000000000) 9 ++ "s"
  else if s.nanos ≥ 1000000 then decimalText (s.nanos / 1000000) (s.nanos % 1000000) 6 ++ "ms"
  else if s.nanos ≥ 1000 then decimalText (s.nanos / 1000) (s.nanos % 1000) 3 ++ "µs"
  else Text.ofNat s.nanos ++ "ns"

end Span

end Ebms
