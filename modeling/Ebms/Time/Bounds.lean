import Ebms.Time.Instant

/-! # The range of instants

Instants are kept within the years -262143 to 262142.  Adding a length of time
stays inside that range or has no result, and drops the billion nanoseconds that a leap
second has too many as soon as the sum leaves it. -/

set_option autoImplicit false

namespace Ebms.Instant

def firstSecond : Int := Day.toEpochDays { year := -262143, month := 1, day := 1 } * 86400

def lastSecond : Int := Day.toEpochDays { year := 262142, month := 12, day := 31 } * 86400 + 86399

def ofSeconds? (seconds : Int) : Option Instant :=
  if firstSecond ≤ seconds ∧ seconds ≤ lastSecond then some (.ofSeconds seconds) else none

/-- The instant some seconds and nanoseconds (fewer than a billion) later. -/
def later? (t : Instant) (seconds nanos : Nat) : Option Instant :=
  if inLeap : t.nanos ≥ 1000000000 ∧ seconds = 0
      ∧ ¬(nanos > 0 ∧ t.nanos + nanos ≥ 2000000000) then
    some
      { seconds := t.seconds
        nanos := t.nanos + nanos
        nanos_bound := by have bound := t.nanos_bound; omega }
  else
    let sum := t.nanos % 1000000000 + nanos
    let total : Instant :=
      { seconds := t.seconds + seconds + sum / 1000000000
        nanos := sum % 1000000000
        nanos_bound := by omega }
    if firstSecond ≤ total.seconds ∧ total.seconds ≤ lastSecond then some total else none

end Ebms.Instant
