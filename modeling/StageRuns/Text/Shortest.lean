/-
# The shortest text of a double

Every double is the nearest one to all numbers of an interval around it. Its
text is the number in that interval with the fewest digits, which is a multiple
of the largest possible power of ten; of two such multiples the one nearer to
the double counts, and the larger one if both are as near. The digits are
written in full, without an exponent, and a whole number has no point.

Key definitions: `Text.Interval`, `Text.Interval.ofMagnitude`,
`Text.Interval.shortest`, `Text.positional`, `Text.textOfDouble`.
-/
import StageRuns.Text.Digit

namespace StageRuns
namespace Text

/-- The numbers that round to a double, as numerators over one denominator. -/
structure Interval where
  low : Nat
  /-- The double itself. -/
  value : Nat
  high : Nat
  denominator : Nat
  /-- Do the ends belong to it? -/
  isClosed : Bool
deriving Repr, DecidableEq

namespace Interval

/-- The interval of the double with this significand and power of two. Where the
significand is the least of its power, the double below is half as far away. -/
def ofSignificand (significand : Nat) (power : Int) (isLeast : Bool) : Interval :=
  let up := Nat.pow 2 (power - 2).toNat
  ⟨(4 * significand - (if isLeast then 1 else 2)) * up, 4 * significand * up,
    (4 * significand + 2) * up, Nat.pow 2 (2 - power).toNat, significand % 2 == 0⟩

/-- The interval of the double whose bits, without the sign, are given. -/
def ofMagnitude (bits : Nat) : Interval :=
  let stored := bits / 0x10000000000000
  let fraction := bits % 0x10000000000000
  if stored = 0 then ofSignificand fraction (-1074) false
  else ofSignificand (0x10000000000000 + fraction) (stored - 1075) (fraction == 0 && stored != 1)

/-- Is `n * 10 ^ exponent` in the interval? -/
def contains (i : Interval) (n : Nat) (exponent : Int) : Bool :=
  let up := Nat.pow 10 (-exponent).toNat
  let scaled := n * i.denominator * Nat.pow 10 exponent.toNat
  if i.isClosed then i.low * up ≤ scaled && scaled ≤ i.high * up
  else i.low * up < scaled && scaled < i.high * up

/-- The multiple of `10 ^ exponent` in the interval that is nearest to the
double, if there is one other than zero. -/
def multiple? (i : Interval) (exponent : Int) : Option Nat :=
  let value := i.value * Nat.pow 10 (-exponent).toNat
  let unit := i.denominator * Nat.pow 10 exponent.toNat
  let below := value / unit
  let hasBelow := below != 0 && i.contains below exponent
  if i.contains (below + 1) exponent && (!hasBelow || unit ≤ 2 * (value % unit)) then
    some (below + 1)
  else if hasBelow then some below
  else none

/-- The multiple in the interval of the largest power of ten that is at most
`exponent`, with that power. -/
def multipleFrom (i : Interval) : Nat → Int → Nat × Int
  | 0, exponent => (0, exponent)
  | fuel + 1, exponent =>
    match i.multiple? exponent with
    | some n => (n, exponent)
    | none => i.multipleFrom fuel (exponent - 1)

/-- The number in the interval with the fewest digits, as digits and a power of
ten. All doubles lie between `10 ^ (-324)` and `10 ^ 309`. -/
def shortest (i : Interval) : Nat × Int := i.multipleFrom 700 309

end Interval

/-- The number `n * 10 ^ exponent` in full. -/
def positional (n : Nat) (exponent : Int) : List Char :=
  let digits := digitsOfNat n
  let places := (-exponent).toNat
  if 0 ≤ exponent then digits ++ List.replicate exponent.toNat '0'
  else
    let padded := List.replicate (places + 1 - digits.length) '0' ++ digits
    padded.take (padded.length - places) ++ '.' :: padded.drop (padded.length - places)

/-- The text of a finite double. -/
def textOfDouble (d : Float) : List Char :=
  let bits := d.toBits.toNat
  let magnitude := bits % 0x8000000000000000
  let sign := if magnitude = bits then [] else ['-']
  if magnitude = 0 then sign ++ ['0']
  else
    let (n, exponent) := (Interval.ofMagnitude magnitude).shortest
    sign ++ positional n exponent

end Text
end StageRuns
