/-
# Instants

An instant is a count of seconds since the start of 1970 and a fraction in
nanoseconds. A fraction of a whole second or more marks a leap second, which
belongs to the second before it. Moving an instant that lies in a leap second
leaves the leap second unless the move is less than it takes.

Key definitions: `Instant`, `Instant.advance`, `Instant.date`,
`Instant.secondOfDay`, `Clock`.
-/
import StageRuns.Time.Date

namespace StageRuns

/-- A point in time. -/
structure Instant where
  seconds : Int
  nanos : Nat
deriving Repr, DecidableEq, Inhabited

namespace Instant

/-- The nanoseconds of a second. -/
def nanosPerSecond : Nat := 1000000000

/-- Does the instant lie in a leap second? -/
def isLeap (t : Instant) : Bool := nanosPerSecond ≤ t.nanos

/-- The day of the instant. -/
def date (t : Instant) : Date := Date.ofDayNumber (t.seconds / 86400)

/-- The seconds of the day that have passed. -/
def secondOfDay (t : Instant) : Nat := (t.seconds % 86400).toNat

/-- The instant `seconds` and `nanos` after the start of 1970, where `nanos`
may be any whole number. -/
def ofParts (seconds nanos : Int) : Instant :=
  ⟨seconds + nanos / nanosPerSecond, (nanos % nanosPerSecond).toNat⟩

/-- The instant a number of milliseconds later. -/
def advance (t : Instant) (milliseconds : Int) : Instant :=
  let whole := milliseconds.tdiv 1000
  let part := milliseconds.tmod 1000 * 1000000
  if t.isLeap then
    if 0 < whole ∨ (0 < part ∧ 2 * nanosPerSecond ≤ t.nanos + part) then
      ofParts (t.seconds + whole) (t.nanos - nanosPerSecond + part)
    else if whole < 0 then
      ofParts (t.seconds + 1 + whole) (t.nanos - nanosPerSecond + part)
    else
      ⟨t.seconds, (t.nanos + part).toNat⟩
  else
    ofParts (t.seconds + whole) (t.nanos + part)

end Instant

/-- A clock that shows one instant until it is moved or set. -/
structure Clock where
  now : Instant
deriving Repr, DecidableEq

namespace Clock

/-- A clock that shows the start of 2024. -/
def standard : Clock := ⟨⟨1704067200, 0⟩⟩

/-- The clock moved on by a number of milliseconds. -/
def advance (clock : Clock) (milliseconds : Int) : Clock := ⟨clock.now.advance milliseconds⟩

/-- The clock set to an instant. -/
def set (_ : Clock) (instant : Instant) : Clock := ⟨instant⟩

end Clock
end StageRuns
