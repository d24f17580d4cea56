import Ebms.Time.Instant

/-! # Days and their numbers

A number of days since 1970 names a day of the calendar, and that day has that
number: nothing is lost between the two.  The proof counts as the conversion
does, in eras of 400 years that start in March: an era is four centuries of
36524 days and one day more, a century a row of four-year cycles of 1461 days. -/

set_option autoImplicit false

namespace Ebms.Day

/-- The first day of a year of an era, counted from the start of the era. -/
def yearStart (year : Nat) : Nat := 365 * year + year / 4 - year / 100

def ofMarchYear (year : Int) (dayOfYear : Nat) : Day :=
  let march := (5 * dayOfYear + 2) / 153
  let month := if march < 10 then march + 3 else march - 9
  { year := if month ≤ 2 then year + 1 else year
    month
    day := dayOfYear - (153 * march + 2) / 5 + 1 }

/-- A year of an era and a day in it.  The last day of a long year is the leap
day of the year that follows in January. -/
structure MarchDay (year dayOfYear : Nat) : Prop where
  year_lt : year < 400
  dayOfYear_le : dayOfYear ≤ 365
  leap : dayOfYear = 365 → (year + 1) % 4 = 0 ∧ ((year + 1) % 100 ≠ 0 ∨ (year + 1) % 400 = 0)

theorem era_split {day : Nat} (inEra : day < 146097) :
    day = 146096 ∨ ∃ century cycle rest, century < 4 ∧ rest < 1461 ∧
      1461 * cycle + rest < 36524 ∧ day = 36524 * century + 1461 * cycle + rest := by
  by_cases last : day = 146096
  · exact Or.inl last
  · right
    refine ⟨day / 36524, day % 36524 / 1461, day % 36524 % 1461, ?_, ?_, ?_, ?_⟩ <;> omega

theorem yearOfEra_eq {century cycle rest : Nat} (inEra : century < 4) (inCycle : rest < 1461)
    (inCentury : 1461 * cycle + rest < 36524) :
    let day := 36524 * century + 1461 * cycle + rest
    (day - day / 1460 + day / 36524 - day / 146096) / 365 =
      100 * century + 4 * cycle + min 3 (rest / 365) := by
  intro day
  have centuryExact : day / 36524 = century := by omega
  have eraExact : day / 146096 = 0 := by omega
  rw [centuryExact, eraExact]
  have centuries : century = 0 ∨ century = 1 ∨ century = 2 ∨ century = 3 := by omega
  have years : rest / 365 = 0 ∨ rest / 365 = 1 ∨ rest / 365 = 2 ∨ rest / 365 = 3 ∨
      rest / 365 = 4 := by omega
  rcases centuries with rfl | rfl | rfl | rfl <;>
    rcases years with year | year | year | year | year <;> rw [year] <;> omega

/-- The conversion finds a year and a day in it that make up the day of the era. -/
theorem yearOfEra_spec {day year : Nat} (inEra : day < 146097)
    (yearExact : year = (day - day / 1460 + day / 36524 - day / 146096) / 365) :
    yearStart year ≤ day ∧ MarchDay year (day - yearStart year) := by
  rcases era_split inEra with rfl | ⟨century, cycle, rest, inAges, inCycle, inCentury, rfl⟩
  · have last : year = 399 := by omega
    subst last
    exact ⟨by decide, ⟨by decide, by decide, by decide⟩⟩
  · rw [yearOfEra_eq inAges inCycle inCentury] at yearExact
    have quarter : year / 4 = 25 * century + cycle := by omega
    have hundredth : year / 100 = century := by omega
    have start : yearStart year =
        36524 * century + 1461 * cycle + 365 * min 3 (rest / 365) := by
      rw [yearStart, quarter, hundredth]
      omega
    rw [start]
    refine ⟨by omega, ⟨by omega, by omega, ?_⟩⟩
    intro long
    omega

/-- Every number of days names a day of a March year. -/
theorem ofEpochDays_eq (days : Int) :
    ∃ (era : Int) (year dayOfYear : Nat), MarchDay year dayOfYear ∧
      days + 719468 = era * 146097 + ((yearStart year + dayOfYear : Nat) : Int) ∧
      ofEpochDays days = ofMarchYear (year + era * 400) dayOfYear := by
  have inEra : ((days + 719468) % 146097).toNat < 146097 := by omega
  obtain ⟨startLe, marchDay⟩ := yearOfEra_spec inEra rfl
  refine ⟨(days + 719468) / 146097, _, _, marchDay, ?_, rfl⟩
  rw [Nat.add_sub_cancel' startLe]
  omega

/-! ## Months -/

theorem monthStart_le {dayOfYear : Nat} (bound : dayOfYear ≤ 365) :
    (5 * dayOfYear + 2) / 153 ≤ 11 ∧
      (153 * ((5 * dayOfYear + 2) / 153) + 2) / 5 ≤ dayOfYear := by
  omega

theorem toEpochDays_ofMarchYear {year dayOfYear : Nat} (era : Int)
    (marchDay : MarchDay year dayOfYear) :
    (ofMarchYear (year + era * 400) dayOfYear).toEpochDays =
      era * 146097 + ((yearStart year + dayOfYear : Nat) : Int) - 719468 := by
  obtain ⟨yearBound, dayBound, -⟩ := marchDay
  obtain ⟨monthBound, startBound⟩ := monthStart_le dayBound
  have eraExact : ((year : Int) + era * 400) / 400 = era := by omega
  have yearExact : (((year : Int) + era * 400) % 400).toNat = year := by omega
  -- January and February close the March year, under the next year's number.
  by_cases early : (5 * dayOfYear + 2) / 153 < 10
  · have month : ¬ (5 * dayOfYear + 2) / 153 + 3 ≤ 2 := by omega
    have later : (5 * dayOfYear + 2) / 153 + 3 > 2 := by omega
    simp only [ofMarchYear, toEpochDays, if_pos early, if_neg month, if_pos later, eraExact,
      yearExact, Nat.add_sub_cancel, yearStart]
    omega
  · have month : (5 * dayOfYear + 2) / 153 - 9 ≤ 2 := by omega
    have later : ¬ (5 * dayOfYear + 2) / 153 - 9 > 2 := by omega
    have back : (5 * dayOfYear + 2) / 153 - 9 + 9 = (5 * dayOfYear + 2) / 153 := by omega
    simp only [ofMarchYear, toEpochDays, if_neg early, if_pos month, if_neg later,
      Int.add_sub_cancel, eraExact, yearExact, back, yearStart]
    omega

theorem isLeapYear_of_era {year : Nat} (era : Int)
    (leap : (year + 1) % 4 = 0 ∧ ((year + 1) % 100 ≠ 0 ∨ (year + 1) % 400 = 0)) :
    isLeapYear (year + era * 400 + 1) = true := by
  rw [isLeapYear, Bool.and_eq_true, Bool.or_eq_true, beq_iff_eq, beq_iff_eq, bne_iff_ne]
  omega

theorem isValid_iff (d : Day) : d.isValid = true ↔
    1 ≤ d.month ∧ d.month ≤ 12 ∧ 1 ≤ d.day ∧ d.day ≤ daysInMonth d.year d.month := by
  simp [isValid, and_assoc]

theorem ofMarchYear_of_month {march : Nat} (year : Int) {dayOfYear : Nat}
    (month : (5 * dayOfYear + 2) / 153 = march) :
    ofMarchYear year dayOfYear =
      { year := if (if march < 10 then march + 3 else march - 9) ≤ 2 then year + 1 else year
        month := if march < 10 then march + 3 else march - 9
        day := dayOfYear - (153 * march + 2) / 5 + 1 } := by
  subst month
  rfl

theorem isValid_ofMarchYear {year dayOfYear : Nat} (era : Int)
    (marchDay : MarchDay year dayOfYear) :
    (ofMarchYear (year + era * 400) dayOfYear).isValid = true := by
  obtain ⟨yearBound, dayBound, leap⟩ := marchDay
  have leapYear : dayOfYear = 365 → isLeapYear (year + era * 400 + 1) = true := by
    intro last
    exact isLeapYear_of_era era (leap last)
  obtain ⟨march, month⟩ : ∃ march, (5 * dayOfYear + 2) / 153 = march := ⟨_, rfl⟩
  have months : march = 0 ∨ march = 1 ∨ march = 2 ∨ march = 3 ∨ march = 4 ∨ march = 5 ∨
      march = 6 ∨ march = 7 ∨ march = 8 ∨ march = 9 ∨ march = 10 ∨ march = 11 := by omega
  rw [ofMarchYear_of_month _ month, isValid_iff]
  rcases months with rfl | rfl | rfl | rfl | rfl | rfl | rfl | rfl | rfl | rfl | rfl | rfl
  case inr.inr.inr.inr.inr.inr.inr.inr.inr.inr.inr =>
    -- February: its last day exists in leap years only.
    by_cases last : dayOfYear = 365
    · have inLeapYear := leapYear last
      simp [daysInMonth, inLeapYear]
      omega
    · simp [daysInMonth]
      split <;> omega
  all_goals
    simp [daysInMonth]
    omega

theorem toEpochDays_ofEpochDays (days : Int) : (ofEpochDays days).toEpochDays = days := by
  obtain ⟨era, year, dayOfYear, marchDay, daysExact, dayExact⟩ := ofEpochDays_eq days
  rw [dayExact, toEpochDays_ofMarchYear era marchDay, ← daysExact]
  omega

theorem isValid_ofEpochDays (days : Int) : (ofEpochDays days).isValid = true := by
  obtain ⟨era, year, dayOfYear, marchDay, -, dayExact⟩ := ofEpochDays_eq days
  rw [dayExact]
  exact isValid_ofMarchYear era marchDay

end Ebms.Day
