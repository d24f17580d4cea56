import Ebms.Text.Trim

/-! # Instants and their RFC 3339 text

An instant is a number of seconds since the start of 1970 in UTC and a number
of nanoseconds.  A leap second is the second before it, the last one of a
minute, with a billion more nanoseconds.  An instant can hold as many in any
other second as well, and is then shown in the next one.  Messages carry instants
to the millisecond; reading accepts any offset from UTC and any number of fraction
digits, of which nine count, and never gives such an instant. -/

set_option autoImplicit false

namespace Ebms

/-- A point in time: seconds since 1970-01-01T00:00:00Z and nanoseconds, fewer than two
billion. -/
structure Instant where
  seconds : Int
  nanos : Nat
  nanos_bound : nanos < 2000000000 := by decide
  deriving DecidableEq, Repr

def Instant.ofSeconds (seconds : Int) : Instant := { seconds, nanos := 0 }

instance : Inhabited Instant := ⟨.ofSeconds 0⟩

structure Day where
  year : Int
  month : Nat
  day : Nat
  deriving DecidableEq, Repr, Inhabited

namespace Day

/-- The day that lies `days` days after 1970-01-01.  Years are counted from
March, so that the leap day is the last one of its year. -/
def ofEpochDays (days : Int) : Day :=
  let shifted := days + 719468
  let era := shifted / 146097
  let dayOfEra := (shifted % 146097).toNat
  let yearOfEra :=
    (dayOfEra - dayOfEra / 1460 + dayOfEra / 36524 - dayOfEra / 146096) / 365
  let dayOfYear := dayOfEra - (365 * yearOfEra + yearOfEra / 4 - yearOfEra / 100)
  let march := (5 * dayOfYear + 2) / 153
  let day := dayOfYear - (153 * march + 2) / 5 + 1
  let month := if march < 10 then march + 3 else march - 9
  let year := (yearOfEra : Int) + era * 400
  { year := if month ≤ 2 then year + 1 else year, month, day }

def toEpochDays (d : Day) : Int :=
  let year := if d.month ≤ 2 then d.year - 1 else d.year
  let era := year / 400
  let yearOfEra := (year % 400).toNat
  let march := if d.month > 2 then d.month - 3 else d.month + 9
  let dayOfYear := (153 * march + 2) / 5 + d.day - 1
  let dayOfEra := yearOfEra * 365 + yearOfEra / 4 - yearOfEra / 100 + dayOfYear
  era * 146097 + (dayOfEra : Int) - 719468

def isLeapYear (year : Int) : Bool :=
  year % 4 == 0 && (year % 100 != 0 || year % 400 == 0)

def daysInMonth (year : Int) (month : Nat) : Nat :=
  if month = 2 then (if isLeapYear year then 29 else 28)
  else if month = 4 ∨ month = 6 ∨ month = 9 ∨ month = 11 then 30
  else 31

def isValid (d : Day) : Bool :=
  1 ≤ d.month && d.month ≤ 12 && 1 ≤ d.day && d.day ≤ daysInMonth d.year d.month

/-- The year in four digits; a year outside 0 to 9999 carries its sign. -/
def yearText (year : Int) : String :=
  if 0 ≤ year ∧ year ≤ 9999 then Text.padded 4 year.toNat
  else (if year < 0 then "-" else "+") ++ Text.padded 4 year.natAbs

def text (d : Day) : String :=
  yearText d.year ++ "-" ++ Text.padded 2 d.month ++ "-" ++ Text.padded 2 d.day

end Day

namespace Instant

/-- Only a leap second has a billion nanoseconds or more. -/
def IsRegular (t : Instant) : Prop := t.nanos < 1000000000 ∨ t.seconds % 60 = 59

def ofParts? (seconds : Int) (nanos : Nat) : Option Instant :=
  if bound : nanos < 1000000000 ∨ (seconds % 60 = 59 ∧ nanos < 2000000000) then
    some { seconds, nanos, nanos_bound := by omega }
  else none

def toMilliseconds (t : Instant) : Instant :=
  { seconds := t.seconds
    nanos := t.nanos / 1000000 * 1000000
    nanos_bound := by have bound := t.nanos_bound; omega }

def before (a b : Instant) : Bool :=
  a.seconds < b.seconds || (a.seconds == b.seconds && a.nanos < b.nanos)

/-- Day and time of day to the second, the fraction given as text. -/
def dateTimeText (t : Instant) (fraction : String) : String :=
  let ofDay := (t.seconds % 86400).toNat
  let second := ofDay % 60 + t.nanos / 1000000000
  (Day.ofEpochDays (t.seconds / 86400)).text ++ "T" ++ Text.padded 2 (ofDay / 3600)
    ++ ":" ++ Text.padded 2 (ofDay / 60 % 60) ++ ":" ++ Text.padded 2 second ++ fraction

/-- RFC 3339 text in UTC with three fraction digits. -/
def millisecondText (t : Instant) : String :=
  t.dateTimeText ("." ++ Text.padded 3 (t.nanos % 1000000000 / 1000000)) ++ "Z"

def shortFraction (nanos : Nat) : String :=
  if nanos = 0 then ""
  else if nanos % 1000000 = 0 then "." ++ Text.padded 3 (nanos / 1000000)
  else if nanos % 1000 = 0 then "." ++ Text.padded 6 (nanos / 1000)
  else "." ++ Text.padded 9 nanos

def fullText (t : Instant) : String :=
  t.dateTimeText (shortFraction (t.nanos % 1000000000)) ++ "+00:00"

def digits? (count : Nat) (chars : List Char) : Option (Nat × List Char) := do
  let value ← Text.decimal? (chars.take count)
  if (chars.take count).length = count then some (value, chars.drop count) else none

def mark? (mark : Char) : List Char → Option (List Char)
  | [] => none
  | c :: rest => if c = mark then some rest else none

/-- A decimal point and at least one digit are a fraction, whose first nine
digits give the nanoseconds; without a point the fraction is zero. -/
def fraction? : List Char → Option (Nat × List Char)
  | '.' :: rest =>
    let run := rest.takeWhile Char.isDigit
    let kept := run.take 9
    (Text.decimal? kept).map fun value =>
      (value * Nat.pow 10 (9 - kept.length), rest.drop run.length)
  | chars => some (0, chars)

/-- The offset from UTC in seconds: `Z`, or a sign with hours and minutes.  The
typographic minus sign counts as a sign. -/
def offset? : List Char → Option (Int × List Char)
  | [] => none
  | c :: rest =>
    if c = 'Z' ∨ c = 'z' then some (0, rest)
    else if c = '+' ∨ c = '-' ∨ c = '−' then do
      let (hours, rest) ← digits? 2 rest
      let rest ← mark? ':' rest
      let (minutes, rest) ← digits? 2 rest
      if hours < 24 ∧ minutes < 60 then
        let distance : Int := hours * 3600 + minutes * 60
        some (if c = '+' then distance else -distance, rest)
      else none
    else none

/-- The instant that an RFC 3339 text names.  Date and time are parted by `T`,
`t` or a space; a sixtieth second is a leap second. -/
def ofText? (text : String) : Option Instant := do
  let (year, rest) ← digits? 4 text.toList
  let rest ← mark? '-' rest
  let (month, rest) ← digits? 2 rest
  let rest ← mark? '-' rest
  let (day, rest) ← digits? 2 rest
  let rest ← match rest with
    | c :: rest => if c = 'T' ∨ c = 't' ∨ c = ' ' then some rest else none
    | [] => none
  let (hour, rest) ← digits? 2 rest
  let rest ← mark? ':' rest
  let (minute, rest) ← digits? 2 rest
  let rest ← mark? ':' rest
  let (second, rest) ← digits? 2 rest
  let (nanos, rest) ← fraction? rest
  let (offset, rest) ← offset? rest
  let date : Day := { year := year, month, day }
  if rest.isEmpty && date.isValid && hour < 24 && minute < 60 && second ≤ 60 then
    let leap := if second = 60 then 1 else 0
    ofParts?
      (date.toEpochDays * 86400 + hour * 3600 + minute * 60
        + ((second - leap : Nat) : Int) - offset)
      (nanos + leap * 1000000000)
  else none

end Instant

end Ebms
