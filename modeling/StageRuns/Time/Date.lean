/-
# Days of the calendar

The Gregorian calendar, extended to all years before and after its use, with
year 0 before year 1. A date has a day number, counted from 1 January 1970;
`Date.ofDayNumber` is the way back. Both count years from March, so that the
leap day is the last day of its year.

Key definitions: `Date`, `Date.isValid`, `Date.dayNumber`,
`Date.ofDayNumber`.
-/
namespace StageRuns

/-- A day of the calendar. -/
structure Date where
  year : Int
  month : Nat
  day : Nat
deriving Repr, DecidableEq

namespace Date

/-- Does the year have a leap day? -/
def isLeapYear (year : Int) : Bool :=
  year % 4 == 0 && (year % 100 != 0 || year % 400 == 0)

/-- The number of days of a month. -/
def daysInMonth (year : Int) (month : Nat) : Nat :=
  if month = 2 then (if isLeapYear year then 29 else 28)
  else if month = 4 ∨ month = 6 ∨ month = 9 ∨ month = 11 then 30
  else 31

/-- Is there such a day? -/
def isValid (d : Date) : Bool :=
  1 ≤ d.month && d.month ≤ 12 && 1 ≤ d.day && d.day ≤ daysInMonth d.year d.month

/-- The days from 1 March of year 0 to 1 January 1970. -/
def epochOffset : Int := 719468

/-- The days from 1 January 1970 to the date. -/
def dayNumber (d : Date) : Int :=
  let year := if d.month ≤ 2 then d.year - 1 else d.year
  let monthFromMarch := (d.month + 9) % 12
  let dayOfYear : Int := (153 * monthFromMarch + 2) / 5 + d.day - 1
  365 * year + year / 4 - year / 100 + year / 400 + dayOfYear - epochOffset

/-- The date a number of days after 1 January 1970. A period of 400 years is
split into centuries, spans of four years and years; the last of each kind
takes the leap day, hence the two bounds of 3. -/
def ofDayNumber (n : Int) : Date :=
  let fromMarch := n + epochOffset
  let period := fromMarch / 146097
  let dayOfPeriod := (fromMarch % 146097).toNat
  let century := min (dayOfPeriod / 36524) 3
  let dayOfCentury := dayOfPeriod - 36524 * century
  let span := dayOfCentury / 1461
  let dayOfSpan := dayOfCentury % 1461
  let yearOfSpan := min (dayOfSpan / 365) 3
  let dayOfYear := dayOfSpan - 365 * yearOfSpan
  let year := 400 * period + (100 * century + 4 * span + yearOfSpan : Nat)
  let monthFromMarch := (5 * dayOfYear + 2) / 153
  let day := dayOfYear - (153 * monthFromMarch + 2) / 5 + 1
  if monthFromMarch < 10 then ⟨year, monthFromMarch + 3, day⟩
  else ⟨year + 1, monthFromMarch - 9, day⟩

end Date
end StageRuns
