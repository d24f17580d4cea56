import Ebms.Time.Span

/-! # Spans in words

Settings state lengths of time as numbers with units, such as `1h 30m`.  A month
has 30.44 days and a year 365.25.  Reading accepts long and short names of a
unit, fractions, and units without a blank between them; writing uses the
largest units that fit. -/

set_option autoImplicit false

namespace Ebms

inductive TimeUnit where
  | nanosecond | microsecond | millisecond | second | minute | hour | day | week | month | year
  deriving DecidableEq, Repr, Inhabited

namespace TimeUnit

def ofName? (name : String) : Option TimeUnit :=
  if ["nanos", "nsec", "ns"].contains name then some .nanosecond
  else if ["usec", "us", "µs"].contains name then some .microsecond
  else if ["millis", "msec", "ms"].contains name then some .millisecond
  else if ["seconds", "second", "secs", "sec", "s"].contains name then some .second
  else if ["minutes", "minute", "min", "mins", "m"].contains name then some .minute
  else if ["hours", "hour", "hr", "hrs", "h"].contains name then some .hour
  else if ["days", "day", "d"].contains name then some .day
  else if ["weeks", "week", "wk", "wks", "w"].contains name then some .week
  else if ["months", "month", "M"].contains name then some .month
  else if ["years", "year", "yr", "yrs", "y"].contains name then some .year
  else none

/-- How many nanoseconds one of a unit below the second has, and how many
seconds one of the others. -/
def size : TimeUnit → Nat
  | .nanosecond => 1
  | .microsecond => 1000
  | .millisecond => 1000000
  | .second => 1
  | .minute => 60
  | .hour => 3600
  | .day => 86400
  | .week => 604800
  | .month => 2630016
  | .year => 31557600

def isSubsecond : TimeUnit → Bool
  | .nanosecond | .microsecond | .millisecond => true
  | _ => false

end TimeUnit

namespace Span

def word? (value : Nat) : Option Nat := if value < UInt64.size then some value else none

def plus? (s : Span) (seconds nanos : Nat) : Option Span := do
  let _ ← word? (s.subsecond + nanos)
  let total := s.nanos + seconds * perSecond + nanos
  let _ ← word? (total / perSecond)
  some { nanos := total }

def plusWhole? (s : Span) (unit : TimeUnit) (count : Nat) : Option Span := do
  let amount ← word? (count * unit.size)
  if unit.isSubsecond then s.plus? 0 amount else s.plus? amount 0

def exactQuotient? (dividend divisor : Nat) : Option Nat := do
  let dividend ← word? dividend
  if dividend % divisor = 0 then some (dividend / divisor) else none

/-- The sum with a fraction of a unit.  A fraction of an hour or a longer unit has
to be a whole number of seconds, one of a shorter unit a whole number of
nanoseconds; a nanosecond has no fractions. -/
def plusFraction? (s : Span) (unit : TimeUnit) (numerator denominator : Nat) : Option Span :=
  if unit = .nanosecond then none
  else if unit.isSubsecond then do
    s.plus? 0 (← exactQuotient? (numerator * unit.size) denominator)
  else if unit = .second ∨ unit = .minute then do
    s.plus? 0 (← exactQuotient? (numerator * (unit.size * perSecond)) denominator)
  else do
    s.plus? (← exactQuotient? (numerator * unit.size) denominator) 0

def isUnitLetter (c : Char) : Bool := c.isAlpha || c == 'µ'

def digitAfter? (value : Nat) (c : Char) : Option Nat :=
  (Text.digit? c).bind fun d => word? (10 * value + d)

/-- Reads the rest of a number, blanks in it included, up to a letter, a point or
the end. -/
def numberFrom (value : Nat) : List Char → Option (Nat × List Char)
  | [] => some (value, [])
  | c :: rest =>
    if Text.isBlank c then numberFrom value rest
    else if isUnitLetter c || c == '.' then some (value, c :: rest)
    else
      match digitAfter? value c with
      | some value => numberFrom value rest
      | none => none

def fractionFrom (numerator denominator : Nat) : List Char → Option (Nat × Nat × List Char)
  | [] => if denominator = 1 then none else some (numerator, denominator, [])
  | c :: rest =>
    if Text.isBlank c then fractionFrom numerator denominator rest
    else if isUnitLetter c then
      if denominator = 1 then none else some (numerator, denominator, c :: rest)
    else
      match digitAfter? numerator c, word? (denominator * 10) with
      | some numerator, some denominator => fractionFrom numerator denominator rest
      | _, _ => none

/-- Adds up the terms of a text, each a number and a unit.  `fuel` bounds their
number. -/
def termsFrom (sum : Span) : Nat → List Char → Option Span
  | 0, _ => none
  | fuel + 1, chars =>
    match chars with
    | [] => none
    | first :: rest => do
      let value ← Text.digit? first
      let (value, rest) ← numberFrom value rest
      let (fraction, rest) ← match rest with
        | '.' :: rest => do
          let (numerator, denominator, rest) ← fractionFrom 0 1 rest
          some (some (numerator, denominator), rest)
        | _ => some (none, rest)
      let unit ← TimeUnit.ofName? (String.ofList (rest.takeWhile isUnitLetter))
      let sum ← sum.plusWhole? unit value
      let sum ← match fraction with
        | some (numerator, denominator) => sum.plusFraction? unit numerator denominator
        | none => some sum
      match (rest.dropWhile isUnitLetter) with
      | [] => some sum
      | next :: rest =>
        match (next :: rest).dropWhile Text.isBlank with
        | [] => some sum
        | rest => termsFrom sum fuel rest

def ofWords? (text : String) : Option Span :=
  if text = "0" then some { nanos := 0 }
  else
    let chars := text.toList.dropWhile Text.isBlank
    termsFrom { nanos := 0 } (chars.length + 1) chars

/-- A count with a unit, left out when the count is zero. -/
def term (count : Nat) (unit : String) : List String :=
  if count = 0 then [] else [Text.ofNat count ++ unit]

def pluralTerm (count : Nat) (unit : String) : List String :=
  term count (if count > 1 then unit ++ "s" else unit)

def words (s : Span) : String :=
  let ofYear := s.seconds % 31557600
  let ofMonth := ofYear % 2630016
  let ofDay := ofMonth % 86400
  let n := s.subsecond
  let terms := pluralTerm (s.seconds / 31557600) "year" ++ pluralTerm (ofYear / 2630016) "month"
    ++ pluralTerm (ofMonth / 86400) "day" ++ term (ofDay / 3600) "h"
    ++ term (ofDay / 60 % 60) "m" ++ term (ofDay % 60) "s" ++ term (n / 1000000) "ms"
    ++ term (n / 1000 % 1000) "us" ++ term (n % 1000) "ns"
  if terms.isEmpty then "0s" else " ".intercalate terms

end Span

end Ebms
