import Ebms.Time.Span

/-! # Clocks of whole milliseconds

A wait ends with a tick of the clock, so that it lasts up to a millisecond longer than it is
meant to.  What a clock makes of deadlines beyond those that it can tell is left open, but for
one thing: it does not wait any longer for them. -/

set_option autoImplicit false

namespace Ebms

/-- The least number of whole milliseconds that is not below a span. -/
def Span.roundedUp (span : Span) : Span := { nanos := (span.nanos + 999999) / 1000000 * 1000000 }

structure Clock where
  /-- How long a wait for `span` lasts that begins when `passed` has passed. -/
  lasting (passed span : Span) : Span
  /-- The clock tells all deadlines before this one. -/
  reach : Span
  lasting_eq : ∀ {passed span : Span}, passed.nanos + span.roundedUp.nanos < reach.nanos →
    lasting passed span = span.roundedUp
  lasting_le : ∀ passed span : Span, (lasting passed span).nanos ≤ span.roundedUp.nanos

def Clock.ofReach (reach : Span) : Clock where
  lasting passed span := { nanos := min span.roundedUp.nanos (reach.nanos - passed.nanos) }
  reach
  lasting_eq before := by
    rw [Nat.min_eq_left (by omega)]
  lasting_le _ _ := Nat.min_le_left ..

end Ebms
