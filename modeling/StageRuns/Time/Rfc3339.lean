/-
# Written instants

Instants are written in the profile of RFC 3339: a date and a time of day in
UTC, a fraction of 0, 3, 6 or 9 digits (the fewest that lose nothing) and `Z`.
A year outside 0 to 9999 has a sign and at least four digits. Reading is more
generous: any offset from UTC, `t` or a space between date and time, blanks
between the parts, one digit where two are usual, `:60` for a leap second.
Digits of the fraction beyond the ninth are dropped.

Key definitions: `Instant.toText`, `Instant.ofText?`.
-/
import StageRuns.Text.Blank
import StageRuns.Text.Digit
import StageRuns.Time.Instant

namespace StageRuns
namespace Instant

open Text

/-! ### Writing -/

/-- A year: four digits, or a sign and at least four. -/
def yearText (year : Int) : List Char :=
  if 0 ≤ year ∧ year ≤ 9999 then paddedDigits 4 year.toNat
  else (if year < 0 then '-' else '+') :: paddedDigits 4 year.natAbs

/-- A fraction of a second, the fewest digits of 0, 3, 6 and 9 that lose
nothing. -/
def fractionText (nanos : Nat) : List Char :=
  if nanos = 0 then []
  else if nanos % 1000000 = 0 then '.' :: paddedDigits 3 (nanos / 1000000)
  else if nanos % 1000 = 0 then '.' :: paddedDigits 6 (nanos / 1000)
  else '.' :: paddedDigits 9 nanos

/-- The characters of a written instant. -/
def toChars (t : Instant) : List Char :=
  let d := t.date
  let s := t.secondOfDay
  let second := if t.isLeap then s % 60 + 1 else s % 60
  yearText d.year ++ '-' :: paddedDigits 2 d.month ++ '-' :: paddedDigits 2 d.day ++
    'T' :: paddedDigits 2 (s / 3600) ++ ':' :: paddedDigits 2 (s / 60 % 60) ++
    ':' :: paddedDigits 2 second ++ fractionText (t.nanos % nanosPerSecond) ++ ['Z']

/-- An instant as text. -/
def toText (t : Instant) : String := String.ofList t.toChars

/-! ### Reading

Each reader takes what it needs from the front of the characters and gives
back the rest. -/

/-- A number of one to `most` ASCII digits. -/
def readNumber? (most : Nat) (cs : List Char) : Option (Nat × List Char) :=
  let digits := (cs.takeWhile Char.isDigit).take most
  (natOfDigits? digits).map fun n => (n, cs.drop digits.length)

/-- A year, with any number of digits after a sign and at most four without. -/
def readYear? (cs : List Char) : Option (Int × List Char) :=
  match trimStart cs with
  | '-' :: rest => (readNumber? rest.length rest).map fun (n, rest) => (-(n : Int), rest)
  | '+' :: rest => (readNumber? rest.length rest).map fun (n, rest) => ((n : Int), rest)
  | cs => (readNumber? 4 cs).map fun (n, rest) => ((n : Int), rest)

/-- A number of one or two digits, after blanks. -/
def readPart? (cs : List Char) : Option (Nat × List Char) := readNumber? 2 (trimStart cs)

/-- The rest after blanks and the mark. -/
def readMark? (mark : Char) (cs : List Char) : Option (List Char) :=
  match trimStart cs with
  | c :: rest => if c = mark then some rest else none
  | [] => none

/-- A date of three parts with hyphens between. -/
def readDate? (cs : List Char) : Option (Date × List Char) := do
  let (year, cs) ← readYear? cs
  let cs ← readMark? '-' cs
  let (month, cs) ← readPart? cs
  let cs ← readMark? '-' cs
  let (day, cs) ← readPart? cs
  some (⟨year, month, day⟩, cs)

/-- The mark between date and time of day. -/
def readSeparator? : List Char → Option (List Char)
  | c :: rest => if c = 'T' ∨ c = 't' ∨ c = ' ' then some rest else none
  | [] => none

/-- A fraction of a second in nanoseconds, if there is a point; digits beyond
the ninth are dropped. -/
def readFraction? : List Char → Option (Nat × List Char)
  | '.' :: cs =>
    (readNumber? 9 cs).map fun (n, rest) =>
      (n * Nat.pow 10 (9 - (cs.length - rest.length)), rest.dropWhile Char.isDigit)
  | cs => some (0, cs)

/-- A time of day: the second of the day, at most 23:59:60, and nanoseconds,
which count from the second before in a leap second. -/
def readTimeOfDay? (cs : List Char) : Option ((Nat × Nat) × List Char) := do
  let (hour, cs) ← readPart? cs
  let cs ← readMark? ':' cs
  let (minute, cs) ← readPart? cs
  let cs ← readMark? ':' cs
  let (second, cs) ← readPart? cs
  let (nanos, cs) ← readFraction? cs
  if hour < 24 ∧ minute < 60 ∧ second < 60 then
    some ((hour * 3600 + minute * 60 + second, nanos), cs)
  else if hour < 24 ∧ minute < 60 ∧ second = 60 then
    some ((hour * 3600 + minute * 60 + 59, nanos + nanosPerSecond), cs)
  else
    none

/-- Hours and minutes of an offset in seconds: two digits, any number of colons
or blanks, two digits. The minutes are below 60 and the whole is below a day. -/
def readOffsetSize? : List Char → Option (Nat × List Char)
  | a :: b :: cs => do
    let hours ← natOfDigits? [a, b]
    match cs.dropWhile fun c => c = ':' || isBlank c with
    | c :: d :: rest =>
      let minutes ← natOfDigits? [c, d]
      if minutes < 60 ∧ hours < 24 then some (hours * 3600 + minutes * 60, rest) else none
    | _ => none
  | _ => none

/-- An offset from UTC in seconds: `Z`, `UTC`, or a sign and a size. -/
def readOffset? (cs : List Char) : Option (Int × List Char) :=
  match trimStart cs with
  | 'Z' :: rest => some (0, rest)
  | 'z' :: rest => some (0, rest)
  | '+' :: rest => (readOffsetSize? rest).map fun (n, rest) => ((n : Int), rest)
  | '-' :: rest => (readOffsetSize? rest).map fun (n, rest) => (-(n : Int), rest)
  | '−' :: rest => (readOffsetSize? rest).map fun (n, rest) => (-(n : Int), rest)
  | a :: b :: c :: rest =>
    if [a, b, c].map Char.toLower = ['u', 't', 'c'] then some (0, rest) else none
  | _ => none

/-- The years that an instant may fall in. -/
def isYearInRange (year : Int) : Bool := -262143 ≤ year && year ≤ 262142

/-- The instant that the characters write. -/
def ofChars? (cs : List Char) : Option Instant := do
  let (date, cs) ← readDate? cs
  let cs ← readSeparator? cs
  let ((second, nanos), cs) ← readTimeOfDay? cs
  let (offset, cs) ← readOffset? cs
  let instant : Instant := ⟨date.dayNumber * 86400 + second - offset, nanos⟩
  if trimStart cs = [] ∧ date.isValid ∧ isYearInRange date.year ∧
      isYearInRange instant.date.year then
    some instant
  else
    none

/-- The instant that a text writes. -/
def ofText? (s : String) : Option Instant := ofChars? s.toList

end Instant
end StageRuns
