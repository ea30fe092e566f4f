/-
# Decimal magnitudes

Whether a number written with digits, a fraction and an exponent is small
enough to be rounded to a double-precision number. Numbers that are not are
written correctly and have no value.

Key definitions: `Text.Decimal`, `Text.Decimal.isFinite`.
-/
import StageRuns.Text.Digit

namespace StageRuns
namespace Text

/-- The number `significand * 10 ^ exponent`. -/
structure Decimal where
  significand : Nat
  exponent : Int
deriving Repr, DecidableEq

/-- The least magnitude that rounds to infinity: halfway between the largest
double and the next power of two. -/
def Decimal.overflow : Nat := Nat.pow 2 1024 - Nat.pow 2 970

/-- Does the number round to a finite double? The count of digits decides the
plain cases, so that no power of a huge exponent is formed. -/
def Decimal.isFinite (d : Decimal) : Bool :=
  let size := (digitsOfNat d.significand).length + d.exponent
  if d.significand = 0 ∨ size < 300 then true
  else if 320 < size then false
  else if 0 ≤ d.exponent then d.significand * Nat.pow 10 d.exponent.toNat < overflow
  else d.significand < overflow * Nat.pow 10 (-d.exponent).toNat

/-- The number written by the digits before and after a point and an
exponent. -/
def Decimal.ofDigits (whole fraction : List Char) (exponent : Int) : Decimal :=
  ⟨(readDigits 0 (whole ++ fraction)).getD 0, exponent - fraction.length⟩

end Text
end StageRuns
