/-
# Days and dates

The way from a day number to a date and back leads to the same day
(`Date.dayNumber_ofDayNumber`), and there is such a date (`Date.isValid_ofDayNumber`).
Both follow from the parts into which a day number is split (`Date.Split`): a period of
400 years, a century, a span of four years, a year from March and a day of it.

Key definitions: `Date.Split`.
Key theorems: `Date.exists_split`, `Date.dayNumber_ofDayNumber`,
`Date.isValid_ofDayNumber`.
-/
import StageRuns.Time.Date

namespace StageRuns
namespace Date

theorem daysInMonth_le (year : Int) (month : Nat) : daysInMonth year month ≤ 31 := by
  unfold daysInMonth
  split
  · split <;> decide
  · split <;> decide

/-- A day number taken apart. Only the last year of a span has a day 365, and the last
span of a century has one only in the last century of a period. -/
structure Split (n : Int) where
  period : Int
  century : Nat
  span : Nat
  year : Nat
  day : Nat
  century_le : century ≤ 3
  span_le : span ≤ 24
  year_le : year ≤ 3
  day_le : day ≤ 365
  leap : day = 365 → year = 3 ∧ (span = 24 → century = 3)
  total : n + epochOffset =
    146097 * period + (36524 * century + 1461 * span + 365 * year + day : Nat)

namespace Split

variable {n : Int} (p : Split n)

/-- The year from March on that the day is in. -/
def fullYear : Int := 400 * p.period + (100 * p.century + 4 * p.span + p.year : Nat)

/-- The number of the month of the day, where March is 0. -/
def month : Nat := (5 * p.day + 2) / 153

/-- The date of the parts. -/
def date : Date :=
  if p.month < 10 then ⟨p.fullYear, p.month + 3, p.day - (153 * p.month + 2) / 5 + 1⟩
  else ⟨p.fullYear + 1, p.month - 9, p.day - (153 * p.month + 2) / 5 + 1⟩

theorem month_le : p.month ≤ 11 := by
  have := p.day_le
  unfold month
  omega

/-- The month has started on the day. -/
theorem le_day : (153 * p.month + 2) / 5 ≤ p.day := by
  unfold month
  omega

end Split

/-- The date of a day number is that of its parts. -/
theorem exists_split (n : Int) : ∃ p : Split n, ofDayNumber n = p.date := by
  let dayOfPeriod := ((n + epochOffset) % 146097).toNat
  let century := min (dayOfPeriod / 36524) 3
  let dayOfCentury := dayOfPeriod - 36524 * century
  let year := min (dayOfCentury % 1461 / 365) 3
  exact ⟨{
    period := (n + epochOffset) / 146097
    century := century
    span := dayOfCentury / 1461
    year := year
    day := dayOfCentury % 1461 - 365 * year
    century_le := by omega
    span_le := by omega
    year_le := by omega
    day_le := by omega
    leap := by omega
    total := by omega }, rfl⟩

namespace Split

variable {n : Int} (p : Split n)

/-- The leap days before the year are one for each span, none for the turn of a
century, and one for that of a period. -/
theorem days_fullYear : 365 * p.fullYear + p.fullYear / 4 - p.fullYear / 100 + p.fullYear / 400 =
    146097 * p.period + (36524 * p.century + 1461 * p.span + 365 * p.year : Nat) := by
  obtain ⟨period, century, span, year, day, hcentury, hspan, hyear, -, -, -⟩ := p
  have hfour : (400 * period + (100 * century + 4 * span + year : Nat)) / 4 =
      100 * period + (25 * century + span : Nat) := by omega
  have hhundred : (400 * period + (100 * century + 4 * span + year : Nat)) / 100 =
      4 * period + century := by omega
  have hperiod : (400 * period + (100 * century + 4 * span + year : Nat)) / 400 = period := by omega
  simp only [fullYear, hfour, hhundred, hperiod]
  omega

theorem dayNumber_date : p.date.dayNumber = n := by
  have hyears := p.days_fullYear
  have htotal := p.total
  have hmonth := p.month_le
  have hday := p.le_day
  unfold date dayNumber
  by_cases h : p.month < 10
  · have hfromMarch : (p.month + 3 + 9) % 12 = p.month := by omega
    simp only [if_pos h, hfromMarch]
    rw [if_neg (by omega)]
    omega
  · have hfromMarch : (p.month - 9 + 9) % 12 = p.month := by omega
    simp only [if_neg h, hfromMarch]
    rw [if_pos (by omega), Int.add_sub_cancel]
    omega

/-- The last year of a span, counted from March, ends in a leap year. -/
theorem isLeapYear_of_day (h : p.day = 365) : isLeapYear (p.fullYear + 1) = true := by
  obtain ⟨hyear, hspan⟩ := p.leap h
  have hcentury := p.century_le
  have hspan' := p.span_le
  simp only [isLeapYear, fullYear, Bool.and_eq_true, Bool.or_eq_true, beq_iff_eq, bne_iff_ne]
  omega

theorem day_le_daysInMonth (h : p.month < 10) :
    p.day - (153 * p.month + 2) / 5 + 1 ≤ daysInMonth p.fullYear (p.month + 3) := by
  have hday : 5 * p.day + 2 < 153 * (p.month + 1) := by
    unfold month
    omega
  unfold daysInMonth
  rw [if_neg (by omega)]
  split
  · omega
  · omega

/-- January and February belong to the next year. February has the day 365. -/
theorem day_le_daysInMonth_of_le (h : 10 ≤ p.month) :
    p.day - (153 * p.month + 2) / 5 + 1 ≤ daysInMonth (p.fullYear + 1) (p.month - 9) := by
  have hmonth := p.month_le
  have hday : 5 * p.day + 2 < 153 * (p.month + 1) := by
    unfold month
    omega
  have hlast := p.day_le
  unfold daysInMonth
  by_cases hjanuary : p.month = 10
  · rw [if_neg (by omega), if_neg (by omega)]
    omega
  · rw [if_pos (by omega)]
    by_cases hleap : p.day = 365
    · rw [if_pos (p.isLeapYear_of_day hleap)]
      omega
    · split
      · omega
      · omega

theorem isValid_date : p.date.isValid = true := by
  have hmonth := p.month_le
  by_cases h : p.month < 10
  · have hday := p.day_le_daysInMonth h
    simp only [date, if_pos h, isValid, Bool.and_eq_true, decide_eq_true_eq]
    omega
  · have hday := p.day_le_daysInMonth_of_le (Nat.le_of_not_lt h)
    simp only [date, if_neg h, isValid, Bool.and_eq_true, decide_eq_true_eq]
    omega

end Split

variable (n : Int)

theorem dayNumber_ofDayNumber : (ofDayNumber n).dayNumber = n := by
  obtain ⟨p, hp⟩ := exists_split n
  rw [hp, p.dayNumber_date]

theorem isValid_ofDayNumber : (ofDayNumber n).isValid = true := by
  obtain ⟨p, hp⟩ := exists_split n
  rw [hp, p.isValid_date]

end Date
end StageRuns
