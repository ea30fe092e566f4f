/-
# JSON numbers

A number is a minus sign at will, digits without a leading zero, a fraction at
will and an exponent at will. Digits alone are a whole number if they fit in
64 bits, signed or unsigned; minus zero and everything else is a fraction. A
fraction stands for a double: as many of its digits as fit into 64 bits,
multiplied or divided by a power of ten. It has no meaning when the product is
not finite.

Key definitions: `Json.WrittenNumber`, `Json.WrittenNumber.ofChars?`,
`Json.WrittenNumber.double?`, `Json.readNumber?`, `Json.doubleOf?`.
-/
import StageRuns.Document
import StageRuns.Text.Digit

namespace StageRuns
namespace Json

open Text

/-- The parts of a number as it is written. -/
structure WrittenNumber where
  isNegative : Bool
  /-- The digits before the point. -/
  whole : List Char
  /-- The digits after the point. -/
  fraction : List Char
  exponent : Option Int
deriving Repr, DecidableEq

/-- The digits at the front and the rest. -/
def spanDigits (cs : List Char) : List Char × List Char :=
  (cs.takeWhile Char.isDigit, cs.dropWhile Char.isDigit)

/-- The digits of a fraction, which is a point and at least one digit, and the
rest. -/
def readFraction? : List Char → Option (List Char × List Char)
  | '.' :: cs =>
    let (digits, rest) := spanDigits cs
    if digits.isEmpty then none else some (digits, rest)
  | cs => some ([], cs)

/-- The exponent at the end, if there is one: a letter, a sign at will and at
least one digit. -/
def readExponent? : List Char → Option (Option Int)
  | [] => some none
  | c :: cs =>
    if c = 'e' ∨ c = 'E' then
      match cs with
      | '+' :: ds => (natOfDigits? ds).map fun n => some (n : Int)
      | '-' :: ds => (natOfDigits? ds).map fun n => some (-(n : Int))
      | ds => (natOfDigits? ds).map fun n => some (n : Int)
    else none

/-- Are the digits before the point written as JSON asks? -/
def isWholePart (digits : List Char) : Bool :=
  match digits with
  | [] => false
  | [_] => true
  | c :: _ => c != '0'

/-- The significand with as many of the digits after it as fit into 64 bits, and
the number of those left over. -/
def gather (significand : Nat) : List Char → Nat × Nat
  | [] => (significand, 0)
  | c :: cs =>
    let next := significand * 10 + (c.toNat - 48)
    if next < 0x10000000000000000 then gather next cs else (significand, cs.length + 1)

/-- The double nearest to a power of ten; infinite beyond all doubles. -/
def powerOfTen (n : Nat) : Float := Float.ofScientific 1 false (min n 309)

/-- The double times a power of ten. A division by more than the largest power of
ten that is a double takes two steps. -/
def scaled (d : Float) : Int → Float
  | .ofNat n => if d == 0 then d else d * powerOfTen n
  | .negSucc n =>
    if n < 308 then d / powerOfTen (n + 1) else d / powerOfTen 308 / powerOfTen (n - 307)

namespace WrittenNumber

/-- The parts of a number that is written as JSON asks. -/
def ofChars? (cs : List Char) : Option WrittenNumber := do
  let (isNegative, cs) := match cs with
    | '-' :: rest => (true, rest)
    | cs => (false, cs)
  let (whole, rest) := spanDigits cs
  let (fraction, rest) ← readFraction? rest
  let exponent ← readExponent? rest
  if isWholePart whole then some ⟨isNegative, whole, fraction, exponent⟩ else none

/-- The double that the number stands for, if it is finite. -/
def double? (n : WrittenNumber) : Option Float :=
  let (significand, more) := gather 0 n.whole
  let (significand, fewer) := gather significand n.fraction
  let exponent := more - (n.fraction.length - fewer : Nat) + n.exponent.getD 0
  let d := scaled (UInt64.ofNat significand).toFloat exponent
  if d.isFinite then some (if n.isNegative then -d else d) else none

/-- The whole number of 64 bits that the number stands for. -/
def int? (n : WrittenNumber) : Option Int :=
  let value := (readDigits 0 n.whole).getD 0
  if !n.fraction.isEmpty || n.exponent.isSome then none
  else if n.isNegative then
    if 0 < value ∧ value ≤ 0x8000000000000000 then some (-value) else none
  else if value < 0x10000000000000000 then some value
  else none

end WrittenNumber

/-- The meaning of a written number. -/
def readNumber? (cs : List Char) : Option Document :=
  (WrittenNumber.ofChars? cs).map fun n =>
    match n.int? with
    | some value => .int value
    | none => if n.double?.isSome then .fraction (String.ofList cs) else .unreadable

/-- The double that a written number stands for. -/
def doubleOf? (s : String) : Option Float :=
  (WrittenNumber.ofChars? s.toList) >>= WrittenNumber.double?

end Json
end StageRuns
