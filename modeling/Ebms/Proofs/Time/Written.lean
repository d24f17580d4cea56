import Ebms.Proofs.Time.Calendar
import Ebms.Proofs.Text.Cutting

/-! # Instants as written

A message states an instant to the millisecond.  Reading what was written gives
the instant as written, for all years of four digits and for no others; and whatever the year,
two instants with the same text are the same as written.  This is the instant cut to
milliseconds, exactly if it is regular: one with a billion nanoseconds or more in a second
other than the last of a minute is written in the next second. -/

set_option autoImplicit false

namespace Ebms.Instant

open Text (padded)

def date (t : Instant) : Day := Day.ofEpochDays (t.seconds / 86400)

def secondOfDay (t : Instant) : Nat := (t.seconds % 86400).toNat

/-- The instant that the text with milliseconds names. -/
def asWritten (t : Instant) : Instant :=
  if t.nanos < 1000000000 ∨ t.seconds % 60 = 59 then t.toMilliseconds
  else
    { seconds := t.seconds + 1
      nanos := t.nanos % 1000000000 / 1000000 * 1000000
      nanos_bound := by omega }

theorem asWritten_eq_toMilliseconds_iff (t : Instant) :
    t.asWritten = t.toMilliseconds ↔ t.IsRegular := by
  constructor
  · intro same
    unfold asWritten at same
    split at same
    case isTrue regular => exact regular
    case isFalse =>
      have later : t.seconds + 1 = t.seconds := congrArg seconds same
      omega
  · intro regular
    exact if_pos regular

theorem isRegular_asWritten (t : Instant) : t.asWritten.IsRegular := by
  unfold asWritten
  split
  case isTrue regular =>
    rcases regular with few | last
    · left
      show t.nanos / 1000000 * 1000000 < 1000000000
      omega
    · exact .inr last
  case isFalse =>
    left
    show t.nanos % 1000000000 / 1000000 * 1000000 < 1000000000
    omega

theorem before_eq_false_iff {a b : Instant} : a.before b = false ↔
    b.seconds ≤ a.seconds ∧ (a.seconds = b.seconds → b.nanos ≤ a.nanos) := by
  simp [before]

theorem before_asWritten_eq_false {t now : Instant}
    (current : t.toMilliseconds.before now = false) : t.asWritten.before now = false := by
  unfold asWritten
  split
  case isTrue => exact current
  case isFalse =>
    obtain ⟨reached, -⟩ := before_eq_false_iff.mp current
    have whole : now.seconds ≤ t.seconds := reached
    have passed : t.seconds + 1 ≠ now.seconds := by omega
    refine before_eq_false_iff.mpr ⟨?_, fun same => absurd same passed⟩
    show now.seconds ≤ t.seconds + 1
    omega

/-- Four seconds after a full minute, and a billion nanoseconds too many. -/
def sampleOverfull : Instant := { seconds := 1700006164, nanos := 1333000000 }

example : sampleOverfull.asWritten = { seconds := 1700006165, nanos := 333000000 } := by decide

theorem ofParts?_of_isRegular {t : Instant} (regular : t.IsRegular) :
    ofParts? t.seconds t.nanos = some t := by
  have bound := t.nanos_bound
  have fits : t.nanos < 1000000000 ∨ t.seconds % 60 = 59 ∧ t.nanos < 2000000000 :=
    regular.imp_right fun last => ⟨last, bound⟩
  rw [ofParts?, dif_pos fits]

theorem isRegular_of_ofParts? {seconds : Int} {nanos : Nat} {t : Instant}
    (made : ofParts? seconds nanos = some t) : t.IsRegular := by
  unfold ofParts? at made
  split at made
  case isTrue bound =>
    cases made
    exact bound.imp_right And.left
  case isFalse => cases made

def shownSecond (t : Instant) : Nat := t.secondOfDay % 60 + t.nanos / 1000000000

def shownMilliseconds (t : Instant) : Nat := t.nanos % 1000000000 / 1000000

def HasFourDigitYear (t : Instant) : Prop := 0 ≤ t.date.year ∧ t.date.year ≤ 9999

theorem secondOfDay_lt (t : Instant) : t.secondOfDay < 86400 := by
  rw [secondOfDay]
  omega

def charsAfterYear (t : Instant) : List Char :=
  '-' :: ((padded 2 t.date.month).toList ++ '-' :: ((padded 2 t.date.day).toList ++ 'T' ::
    ((padded 2 (t.secondOfDay / 3600)).toList ++ ':' ::
      ((padded 2 (t.secondOfDay / 60 % 60)).toList ++ ':' ::
        ((padded 2 t.shownSecond).toList ++ '.' ::
          ((padded 3 t.shownMilliseconds).toList ++ ['Z']))))))

theorem toList_millisecondText (t : Instant) :
    t.millisecondText.toList = (Day.yearText t.date.year).toList ++ t.charsAfterYear := by
  simp [millisecondText, dateTimeText, Day.text, charsAfterYear, date, secondOfDay,
    shownSecond, shownMilliseconds]

/-! ## Reading the parts -/

theorem digits?_padded {width value : Nat} (positive : 0 < width)
    (fits : value < Nat.pow 10 width) (rest : List Char) :
    digits? width ((padded width value).toList ++ rest) = some (value, rest) := by
  have length : (padded width value).toList.length = width :=
    Text.length_padded positive fits
  have head : ((padded width value).toList ++ rest).take width =
      (padded width value).toList := by
    rw [List.take_append_of_le_length (by omega), List.take_of_length_le (by omega)]
  have tail : ((padded width value).toList ++ rest).drop width = rest := by
    rw [List.drop_append_of_le_length (by omega), List.drop_of_length_le (by omega)]
    rfl
  rw [digits?, head, tail, Text.decimal?_padded]
  simp [length]

theorem mark?_cons (mark : Char) (rest : List Char) : mark? mark (mark :: rest) = some rest := by
  simp [mark?]

theorem fraction?_padded {value : Nat} (fits : value < 1000) {rest : List Char}
    (ended : ∀ c ∈ rest.head?, c.isDigit = false) :
    fraction? ('.' :: ((padded 3 value).toList ++ rest)) = some (value * 1000000, rest) := by
  have length : (padded 3 value).toList.length = 3 := Text.length_padded (by decide) fits
  have run : ((padded 3 value).toList ++ rest).takeWhile Char.isDigit =
      (padded 3 value).toList := by
    rw [List.takeWhile_append_of_pos]
    · cases rest with
      | nil => simp
      | cons c others => simp [ended c (by simp)]
    · intro c member
      exact Text.isDigit_of_mem_padded member
  have kept : (padded 3 value).toList.take 9 = (padded 3 value).toList := by
    rw [List.take_of_length_le (by omega)]
  have tail : ((padded 3 value).toList ++ rest).drop 3 = rest := by
    rw [List.drop_append_of_le_length (by omega), List.drop_of_length_le (by omega)]
    rfl
  rw [fraction?]
  simp only [run, kept, Text.decimal?_padded, length, tail]
  rfl

theorem yearText_of_fourDigits {year : Int} (low : 0 ≤ year) (high : year ≤ 9999) :
    Day.yearText year = padded 4 year.toNat := by
  rw [Day.yearText, if_pos ⟨low, high⟩]

/-! ## Reading what was written -/

theorem date_valid (t : Instant) : t.date.isValid = true := Day.isValid_ofEpochDays _

theorem month_lt (t : Instant) : t.date.month < 100 := by
  obtain ⟨-, high, -⟩ := (Day.isValid_iff _).mp t.date_valid
  omega

theorem day_lt (t : Instant) : t.date.day < 100 := by
  obtain ⟨-, -, -, high⟩ := (Day.isValid_iff _).mp t.date_valid
  have : Day.daysInMonth t.date.year t.date.month ≤ 31 := by
    rw [Day.daysInMonth]
    repeat' split
    all_goals omega
  omega

theorem hour_lt (t : Instant) : t.secondOfDay / 3600 < 100 := by
  have ofDay := t.secondOfDay_lt
  omega

theorem minute_lt (t : Instant) : t.secondOfDay / 60 % 60 < 100 := by
  have hourly := Nat.mod_lt (t.secondOfDay / 60) (by decide : 60 > 0)
  omega

theorem shownSecond_le (t : Instant) : t.shownSecond ≤ 60 := by
  have bound := t.nanos_bound
  rw [shownSecond, secondOfDay]
  omega

theorem shownSecond_lt (t : Instant) : t.shownSecond < 100 :=
  Nat.lt_of_le_of_lt t.shownSecond_le (by decide)

theorem shownMilliseconds_lt (t : Instant) : t.shownMilliseconds < 1000 := by
  rw [shownMilliseconds]
  omega

/-- A leap second is shown exactly as the sixtieth one. -/
theorem shownSecond_eq_sixty_iff (t : Instant) :
    t.shownSecond = 60 ↔ 1000000000 ≤ t.nanos ∧ t.seconds % 60 = 59 := by
  have bound := t.nanos_bound
  rw [shownSecond, secondOfDay]
  omega

theorem seconds_asWritten (t : Instant) :
    t.asWritten.seconds = t.seconds / 86400 * 86400 + (t.secondOfDay / 3600 : Nat) * 3600
      + (t.secondOfDay / 60 % 60 : Nat) * 60
      + ((t.shownSecond - (if t.shownSecond = 60 then 1 else 0) : Nat) : Int) - 0 := by
  have bound := t.nanos_bound
  have leap := t.shownSecond_eq_sixty_iff
  unfold asWritten
  split
  case isTrue regular =>
    show t.seconds = _
    split <;> (rw [shownSecond, secondOfDay] at *; omega)
  case isFalse =>
    show t.seconds + 1 = _
    split <;> (rw [shownSecond, secondOfDay] at *; omega)

theorem nanos_asWritten (t : Instant) :
    t.asWritten.nanos = t.shownMilliseconds * 1000000
      + (if t.shownSecond = 60 then 1 else 0) * 1000000000 := by
  have bound := t.nanos_bound
  have leap := t.shownSecond_eq_sixty_iff
  rw [shownMilliseconds]
  unfold asWritten
  split
  case isTrue =>
    show t.nanos / 1000000 * 1000000 = _
    split <;> omega
  case isFalse =>
    show t.nanos % 1000000000 / 1000000 * 1000000 = _
    split <;> omega

/-- The parts shown make up the instant as written. -/
theorem ofParts?_shown (t : Instant) :
    ofParts?
      (t.date.toEpochDays * 86400 + (t.secondOfDay / 3600 : Nat) * 3600
        + (t.secondOfDay / 60 % 60 : Nat) * 60
        + ((t.shownSecond - (if t.shownSecond = 60 then 1 else 0) : Nat) : Int) - 0)
      (t.shownMilliseconds * 1000000 + (if t.shownSecond = 60 then 1 else 0) * 1000000000) =
      some t.asWritten := by
  have days : t.date.toEpochDays = t.seconds / 86400 := Day.toEpochDays_ofEpochDays _
  rw [days, ← seconds_asWritten, ← nanos_asWritten]
  exact ofParts?_of_isRegular t.isRegular_asWritten

theorem isRegular_of_ofText? {text : String} {t : Instant} (read : ofText? text = some t) :
    t.IsRegular := by
  unfold ofText? at read
  obtain ⟨year, -, read⟩ := Option.bind_eq_some_iff.mp read
  obtain ⟨atMonth, -, read⟩ := Option.bind_eq_some_iff.mp read
  obtain ⟨month, -, read⟩ := Option.bind_eq_some_iff.mp read
  obtain ⟨atDay, -, read⟩ := Option.bind_eq_some_iff.mp read
  obtain ⟨day, -, read⟩ := Option.bind_eq_some_iff.mp read
  dsimp only at read
  split at read
  case h_2 => cases read
  split at read
  case isFalse => cases read
  obtain ⟨atHour, -, read⟩ := Option.bind_eq_some_iff.mp read
  obtain ⟨hour, -, read⟩ := Option.bind_eq_some_iff.mp read
  obtain ⟨atMinute, -, read⟩ := Option.bind_eq_some_iff.mp read
  obtain ⟨minute, -, read⟩ := Option.bind_eq_some_iff.mp read
  obtain ⟨atSecond, -, read⟩ := Option.bind_eq_some_iff.mp read
  obtain ⟨second, -, read⟩ := Option.bind_eq_some_iff.mp read
  obtain ⟨fraction, -, read⟩ := Option.bind_eq_some_iff.mp read
  obtain ⟨offset, -, read⟩ := Option.bind_eq_some_iff.mp read
  split at read
  case isTrue => exact isRegular_of_ofParts? read
  case isFalse => cases read

theorem ofText?_of_parts {text : String} {year month day hour minute second nanos : Nat}
    {atYear atMonth atDay atHour atMinute atSecond : List Char}
    (yearRead : digits? 4 text.toList = some (year, '-' :: atYear))
    (monthRead : digits? 2 atYear = some (month, '-' :: atMonth))
    (dayRead : digits? 2 atMonth = some (day, 'T' :: atDay))
    (hourRead : digits? 2 atDay = some (hour, ':' :: atHour))
    (minuteRead : digits? 2 atHour = some (minute, ':' :: atMinute))
    (secondRead : digits? 2 atMinute = some (second, atSecond))
    (fractionRead : fraction? atSecond = some (nanos, ['Z']))
    (validDate : Day.isValid { year := year, month, day } = true)
    (inDay : hour < 24 ∧ minute < 60 ∧ second ≤ 60) :
    ofText? text = ofParts?
      (Day.toEpochDays { year := year, month, day } * 86400 + hour * 3600 + minute * 60
        + ((second - (if second = 60 then 1 else 0) : Nat) : Int) - 0)
      (nanos + (if second = 60 then 1 else 0) * 1000000000) := by
  have offset : offset? ['Z'] = some (0, []) := rfl
  unfold ofText?
  dsimp only [Option.bind_eq_bind]
  rw [yearRead, Option.bind_some]
  dsimp only
  rw [mark?_cons, Option.bind_some, monthRead, Option.bind_some]
  dsimp only
  rw [mark?_cons, Option.bind_some, dayRead, Option.bind_some]
  dsimp only
  rw [if_pos (.inl rfl), Option.bind_some, hourRead, Option.bind_some]
  dsimp only
  rw [mark?_cons, Option.bind_some, minuteRead, Option.bind_some]
  dsimp only
  rw [mark?_cons, Option.bind_some, secondRead, Option.bind_some]
  dsimp only
  rw [fractionRead, Option.bind_some, offset, Option.bind_some]
  dsimp only
  rw [if_pos (by simp [validDate, inDay])]

theorem ofText?_millisecondText {t : Instant} (fourDigits : t.HasFourDigitYear) :
    ofText? t.millisecondText = some t.asWritten := by
  obtain ⟨low, high⟩ := fourDigits
  have ofDay := t.secondOfDay_lt
  have second := t.shownSecond_le
  have year : ((t.date.year.toNat : Nat) : Int) = t.date.year := by omega
  have date : ({ year := (t.date.year.toNat : Nat), month := t.date.month, day := t.date.day }
      : Day) = t.date := by rw [year]
  have chars := t.toList_millisecondText
  rw [yearText_of_fourDigits low high, charsAfterYear] at chars
  have positive : 0 < 2 := by decide
  have yearFits : t.date.year.toNat < 10000 := by omega
  rw [ofText?_of_parts
    (by rw [chars]; exact digits?_padded (by decide) yearFits _)
    (digits?_padded positive t.month_lt _) (digits?_padded positive t.day_lt _)
    (digits?_padded positive t.hour_lt _) (digits?_padded positive t.minute_lt _)
    (digits?_padded positive t.shownSecond_lt _)
    (fraction?_padded t.shownMilliseconds_lt (by simp))]
  · rw [date]
    exact t.ofParts?_shown
  · rw [date]
    exact t.date_valid
  · omega

theorem digits?_sign {sign : Char} (noDigit : sign.isDigit = false) (width : Nat)
    (rest : List Char) : digits? (width + 1) (sign :: rest) = none := by
  have noValue : Text.digit? sign = none := by
    rw [Text.digit?, if_neg]
    rintro ⟨low, high⟩
    have digit : sign.isDigit = true := by
      rw [Char.isDigit, Bool.and_eq_true, decide_eq_true_eq, decide_eq_true_eq]
      exact ⟨low, high⟩
    rw [noDigit] at digit
    cases digit
  have noNumber : Text.decimal? ((sign :: rest).take (width + 1)) = none := by
    rw [List.take_succ_cons]
    simp only [Text.decimal?, Text.decimalFrom, noValue]
  rw [digits?, noNumber]
  rfl

theorem hasFourDigitYear_of_ofText? {t read : Instant}
    (success : ofText? t.millisecondText = some read) : t.HasFourDigitYear := by
  by_cases fourDigits : 0 ≤ t.date.year ∧ t.date.year ≤ 9999
  · exact fourDigits
  have signed : ∃ sign rest, t.millisecondText.toList = sign :: rest ∧ sign.isDigit = false := by
    rw [toList_millisecondText, Day.yearText, if_neg fourDigits, String.toList_append]
    split
    case isTrue => exact ⟨'-', _, rfl, by decide⟩
    case isFalse => exact ⟨'+', _, rfl, by decide⟩
  obtain ⟨sign, rest, chars, noDigit⟩ := signed
  rw [ofText?, chars, digits?_sign noDigit] at success
  cases success

/-! ## Equal texts -/

/-- A year is shown behind no sign, a minus or a plus, and the sign tells the range. -/
theorem toList_yearText (year : Int) :
    ∃ sign, (Day.yearText year).toList = sign ++ (padded 4 year.natAbs).toList ∧
      (sign = [] ∧ 0 ≤ year ∨ sign = ['-'] ∧ year < 0 ∨ sign = ['+'] ∧ 0 ≤ year) := by
  rw [Day.yearText]
  split
  case isTrue fourDigits =>
    have exact : year.toNat = year.natAbs := by omega
    exact ⟨[], by rw [exact, List.nil_append], Or.inl ⟨rfl, fourDigits.1⟩⟩
  case isFalse =>
    rw [String.toList_append]
    split
    case isTrue negative => exact ⟨['-'], rfl, Or.inr (Or.inl ⟨rfl, negative⟩)⟩
    case isFalse positive => exact ⟨['+'], rfl, Or.inr (Or.inr ⟨rfl, by omega⟩)⟩

theorem padded_head_ne {sign : Char} (noDigit : sign.isDigit = false) (value : Nat)
    (rest : List Char) : (padded 4 value).toList ≠ sign :: rest := by
  intro same
  have member : sign ∈ (padded 4 value).toList := by
    rw [same]
    exact List.mem_cons_self
  have digit := Text.isDigit_of_mem_padded member
  rw [noDigit] at digit
  cases digit

theorem yearText_injective {first second : Int}
    (same : Day.yearText first = Day.yearText second) : first = second := by
  have chars := congrArg String.toList same
  obtain ⟨firstSign, firstShape, firstRange⟩ := toList_yearText first
  obtain ⟨secondSign, secondShape, secondRange⟩ := toList_yearText second
  rw [firstShape, secondShape] at chars
  have minus : ∀ value rest, (padded 4 value).toList ≠ '-' :: rest :=
    padded_head_ne (by decide)
  have plus : ∀ value rest, (padded 4 value).toList ≠ '+' :: rest :=
    padded_head_ne (by decide)
  rcases firstRange with ⟨rfl, low⟩ | ⟨rfl, low⟩ | ⟨rfl, low⟩ <;>
    rcases secondRange with ⟨rfl, high⟩ | ⟨rfl, high⟩ | ⟨rfl, high⟩ <;>
    simp only [List.nil_append, List.cons_append, List.cons.injEq] at chars
  · have exact := Text.padded_injective chars
    omega
  · exact absurd chars (minus _ _)
  · exact absurd chars (plus _ _)
  · exact absurd chars.symm (minus _ _)
  · have exact := Text.padded_injective chars.2
    omega
  · exact absurd chars.1 (by decide)
  · exact absurd chars.symm (plus _ _)
  · exact absurd chars.1 (by decide)
  · have exact := Text.padded_injective chars.2
    omega

theorem length_charsAfterYear (t : Instant) : t.charsAfterYear.length = 20 := by
  have two : 0 < 2 := by decide
  have three : 0 < 3 := by decide
  simp only [charsAfterYear, List.length_cons, List.length_append, List.length_nil,
    Text.length_padded two t.month_lt, Text.length_padded two t.day_lt,
    Text.length_padded two t.hour_lt, Text.length_padded two t.minute_lt,
    Text.length_padded two t.shownSecond_lt,
    Text.length_padded three t.shownMilliseconds_lt]

theorem padded_append_inj {width first second : Nat} (positive : 0 < width)
    (firstFits : first < Nat.pow 10 width) (secondFits : second < Nat.pow 10 width)
    {mark : Char} {firstRest secondRest : List Char}
    (same : (padded width first).toList ++ mark :: firstRest =
      (padded width second).toList ++ mark :: secondRest) :
    first = second ∧ firstRest = secondRest := by
  have lengths : (padded width first).toList.length = (padded width second).toList.length := by
    rw [Text.length_padded positive firstFits, Text.length_padded positive secondFits]
  obtain ⟨digits, rest⟩ := List.append_inj same lengths
  exact ⟨Text.padded_injective digits, (List.cons.inj rest).2⟩

/-- Instants that are written alike are the same as written, in any year. -/
theorem millisecondText_injective {first second : Instant}
    (same : first.millisecondText = second.millisecondText) :
    first.asWritten = second.asWritten := by
  have chars := congrArg String.toList same
  rw [toList_millisecondText, toList_millisecondText] at chars
  obtain ⟨years, others⟩ := List.append_inj' chars
    (by rw [length_charsAfterYear, length_charsAfterYear])
  have year : first.date.year = second.date.year :=
    yearText_injective (String.toList_inj.mp years)
  have firstOfDay := first.secondOfDay_lt
  have secondOfDay := second.secondOfDay_lt
  have firstShown := first.shownSecond_le
  have secondShown := second.shownSecond_le
  have two : 0 < 2 := by decide
  obtain ⟨month, others⟩ :=
    padded_append_inj two first.month_lt second.month_lt (List.cons.inj others).2
  obtain ⟨day, others⟩ := padded_append_inj two first.day_lt second.day_lt others
  obtain ⟨hour, others⟩ := padded_append_inj two first.hour_lt second.hour_lt others
  obtain ⟨minute, others⟩ := padded_append_inj two first.minute_lt second.minute_lt others
  obtain ⟨shown, others⟩ := padded_append_inj two first.shownSecond_lt second.shownSecond_lt others
  obtain ⟨milliseconds, -⟩ := padded_append_inj (by decide : 0 < 3)
    first.shownMilliseconds_lt second.shownMilliseconds_lt others
  have date : first.date = second.date := by
    cases firstDate : first.date
    cases secondDate : second.date
    simp only [firstDate, secondDate] at year month day
    rw [year, month, day]
  apply Option.some.inj
  rw [← ofParts?_shown first, date, hour, minute, shown, milliseconds, ofParts?_shown]

@[simp] theorem millisecondText_asWritten (t : Instant) :
    t.asWritten.millisecondText = t.millisecondText := by
  have bound := t.nanos_bound
  unfold asWritten
  split
  case isTrue =>
    have whole : t.nanos / 1000000 * 1000000 / 1000000000 = t.nanos / 1000000000 := by omega
    have fraction : t.nanos / 1000000 * 1000000 % 1000000000 / 1000000 =
        t.nanos % 1000000000 / 1000000 := by omega
    simp only [millisecondText, dateTimeText, toMilliseconds, whole, fraction]
  case isFalse irregular =>
    -- The second that is carried stays inside its minute.
    have day : (t.seconds + 1) / 86400 = t.seconds / 86400 := by omega
    have ofDay : ((t.seconds + 1) % 86400).toNat = (t.seconds % 86400).toNat + 1 := by omega
    have hour : ((t.seconds % 86400).toNat + 1) / 3600 = (t.seconds % 86400).toNat / 3600 := by
      omega
    have minute : ((t.seconds % 86400).toNat + 1) / 60 % 60 =
        (t.seconds % 86400).toNat / 60 % 60 := by omega
    have second : ((t.seconds % 86400).toNat + 1) % 60 +
        t.nanos % 1000000000 / 1000000 * 1000000 / 1000000000 =
        (t.seconds % 86400).toNat % 60 + t.nanos / 1000000000 := by omega
    have fraction : t.nanos % 1000000000 / 1000000 * 1000000 % 1000000000 / 1000000 =
        t.nanos % 1000000000 / 1000000 := by omega
    simp only [millisecondText, dateTimeText, day, ofDay, hour, minute, second, fraction]

theorem mem_millisecondText {t : Instant} {c : Char} (member : c ∈ t.millisecondText.toList) :
    c.isDigit = true ∨ c ∈ ['-', '+', ':', '.', 'T', 'Z'] := by
  obtain ⟨sign, yearShape, range⟩ := toList_yearText t.date.year
  have digit {width value : Nat} (inside : c ∈ (padded width value).toList) :
      c.isDigit = true := Text.isDigit_of_mem_padded inside
  rw [toList_millisecondText, yearShape, List.mem_append, List.mem_append] at member
  rcases member with (inSign | inYear) | inRest
  · right
    rcases range with ⟨rfl, -⟩ | ⟨rfl, -⟩ | ⟨rfl, -⟩ <;> simp at inSign <;> simp [inSign]
  · exact Or.inl (digit inYear)
  · simp only [charsAfterYear, List.mem_cons, List.mem_append, List.not_mem_nil,
      or_false] at inRest
    rcases inRest with same | inside | same | inside | same | inside | same | inside | same |
      inside | same | inside | same
    all_goals first
      | exact Or.inl (digit inside)
      | exact Or.inr (by simp [same])

theorem trim_millisecondText (t : Instant) : Text.trim t.millisecondText = t.millisecondText := by
  apply Text.trim_eq_self
  intro c member
  have marks : ['-', '+', ':', '.', 'T', 'Z'].all (fun mark => !Text.isBlank mark) = true := by
    decide
  rcases mem_millisecondText member with digit | mark
  · exact Text.isBlank_of_isDigit digit
  · simpa using List.all_eq_true.mp marks c mark

end Ebms.Instant
