/-
# Classes of characters as ranges of code points

A property of characters that a standard lists is kept as a list of closed
ranges of code points in rising order. `Text.inRanges` asks whether a
character is in one of them, `Text.Shift` describes a run of characters that
all move by the same distance.

Key definitions: `Text.inRanges`, `Text.Shift`, `Text.Shift.apply?`.
-/
namespace StageRuns
namespace Text

/-- Is the code point of `c` in one of the closed ranges? -/
def inRanges (ranges : List (Nat × Nat)) (c : Char) : Bool :=
  ranges.any fun range => range.1 ≤ c.toNat && c.toNat ≤ range.2

/-- A run of code points, every `step`-th one from `first` to `last`, all moved
by the distance `by`. -/
structure Shift where
  first : Nat
  last : Nat
  step : Nat
  distance : Int
deriving Repr, DecidableEq

/-- The character that the run maps `c` to, if `c` belongs to the run. -/
def Shift.apply? (shift : Shift) (c : Char) : Option Char :=
  let n := c.toNat
  if shift.first ≤ n ∧ n ≤ shift.last ∧ (n - shift.first) % shift.step = 0 then
    some (Char.ofNat (n + shift.distance).toNat)
  else
    none

end Text
end StageRuns
