/-
# Plain scalars of YAML

What a scalar without quotes may stand for: nothing, a truth value, a whole
number in base 10, or 2, 8 and 16 with a mark, or a fraction. Digits after a
leading zero are no number.

Key definitions: `Yaml.isNull`, `Yaml.bool?`, `Yaml.int?`, `Yaml.nat?`,
`Yaml.isFraction`, `Yaml.Meaning`, `Yaml.meaning`, `Yaml.meaningByTag`,
`Yaml.isSpecial`.
-/
import StageRuns.Text.Magnitude

namespace StageRuns
namespace Yaml

open Text

/-- Does the scalar stand for nothing? -/
def isNull (cs : List Char) : Bool :=
  [[], ['~'], "null".toList, "Null".toList, "NULL".toList].contains cs

/-- The truth value that the scalar stands for. -/
def bool? (cs : List Char) : Option Bool :=
  if ["true".toList, "True".toList, "TRUE".toList].contains cs then some true
  else if ["false".toList, "False".toList, "FALSE".toList].contains cs then some false
  else none

/-- Are these more digits than one, with a zero in front, perhaps after a
sign? -/
def isPaddedDigits (cs : List Char) : Bool :=
  let digits := match cs with
    | '-' :: rest => rest
    | '+' :: rest => rest
    | cs => cs
  match digits with
  | '0' :: d :: rest => (d :: rest).all Char.isDigit
  | _ => false

/-- The value of a digit in a base of at most 16. -/
def digitValue? (base : Nat) (c : Char) : Option Nat :=
  let n :=
    if '0' ≤ c ∧ c ≤ '9' then c.toNat - 48
    else if 'a' ≤ c ∧ c ≤ 'f' then c.toNat - 87
    else if 'A' ≤ c ∧ c ≤ 'F' then c.toNat - 55
    else base
  if n < base then some n else none

/-- The number that digits in a base write after `start`. -/
def readBase (base start : Nat) : List Char → Option Nat
  | [] => some start
  | c :: cs => (digitValue? base c).bind fun d => readBase base (start * base + d) cs

/-- The number that one or more digits in a base write. -/
def natInBase? (base : Nat) (cs : List Char) : Option Nat :=
  if cs.isEmpty then none else readBase base 0 cs

/-- The number after a sign was taken off: a mark of the base and digits, or
decimal digits. -/
def unsigned? : List Char → Option Nat
  | '0' :: 'x' :: cs => natInBase? 16 cs
  | '0' :: 'o' :: cs => natInBase? 8 cs
  | '0' :: 'b' :: cs => natInBase? 2 cs
  | cs => natInBase? 10 cs

/-- The whole number that the scalar stands for. -/
def int? (cs : List Char) : Option Int :=
  if isPaddedDigits cs then none
  else match cs with
    | '-' :: rest => (unsigned? rest).map fun n => -(n : Int)
    | '+' :: rest => (unsigned? rest).map fun n => (n : Int)
    | rest => (unsigned? rest).map fun n => (n : Int)

/-- The whole number without a minus sign that the scalar stands for. -/
def nat? (cs : List Char) : Option Int :=
  match cs with
  | '-' :: _ => none
  | cs => int? cs

/-- The digits at the front and the rest. -/
def spanDigits (cs : List Char) : List Char × List Char :=
  (cs.takeWhile Char.isDigit, cs.dropWhile Char.isDigit)

/-- The exponent at the end of a number. -/
def exponent? : List Char → Option Int
  | [] => some 0
  | c :: cs =>
    if c = 'e' ∨ c = 'E' then
      match cs with
      | '+' :: ds => (natOfDigits? ds).map fun n => (n : Int)
      | '-' :: ds => (natOfDigits? ds).map fun n => -(n : Int)
      | ds => (natOfDigits? ds).map fun n => (n : Int)
    else none

/-- Do the characters write a finite number: digits with a point among them at
will, and an exponent at will? -/
def isFiniteNumber (cs : List Char) : Bool :=
  let (whole, rest) := spanDigits cs
  let (fraction, rest) := match rest with
    | '.' :: rest => spanDigits rest
    | rest => ([], rest)
  if whole.isEmpty && fraction.isEmpty then false
  else match exponent? rest with
    | some e => (Decimal.ofDigits whole fraction e).isFinite
    | none => false

/-- Does the scalar stand for a fraction, infinity or no number? -/
def isFraction (cs : List Char) : Bool :=
  let infinities := [".inf".toList, ".Inf".toList, ".INF".toList]
  let noNumbers := [".nan".toList, ".NaN".toList, ".NAN".toList]
  match cs with
  | '-' :: rest => infinities.contains rest || isFiniteNumber rest
  | '+' :: rest => infinities.contains rest || isFiniteNumber rest
  | rest => infinities.contains rest || noNumbers.contains rest || isFiniteNumber rest

/-! ### Meaning -/

/-- The tag of nothing. -/
def nullTag : String := "tag:yaml.org,2002:null"

/-- The tag of truth values. -/
def boolTag : String := "tag:yaml.org,2002:bool"

/-- The tag of whole numbers. -/
def intTag : String := "tag:yaml.org,2002:int"

/-- The tag of fractions. -/
def fractionTag : String := "tag:yaml.org,2002:float"

/-- What a scalar stands for when no one asks for a text. -/
inductive Meaning where
  | nothing
  | truth (value : Bool)
  /-- A whole number without a minus sign. -/
  | count (value : Nat)
  /-- A whole number with a minus sign. -/
  | negative (value : Int)
  | fraction
  | text
deriving Repr, DecidableEq

/-- The whole number of at most 128 bits, signed or unsigned, that the scalar
stands for. -/
def whole? (cs : List Char) : Option Meaning :=
  match nat? cs, int? cs with
  | some n, _ => if n < 0x100000000000000000000000000000000 then some (.count n.toNat) else none
  | none, some n => if -0x80000000000000000000000000000000 ≤ n then some (.negative n) else none
  | none, none => none

/-- The meaning of a scalar. Digits after a leading zero are a text; of whole
numbers beyond 128 bits only the size matters. -/
def meaning (cs : List Char) : Meaning :=
  if isNull cs then .nothing
  else match bool? cs, whole? cs with
    | some b, _ => .truth b
    | none, some number => number
    | none, none => if !isPaddedDigits cs && isFraction cs then .fraction else .text

/-- The meaning of a scalar with a tag, which must be one of the type of the tag.
A scalar with the tag of no known type is a text. -/
def meaningByTag (tag : String) (cs : List Char) : Option Meaning :=
  if tag = nullTag then if isNull cs && !cs.isEmpty then some .nothing else none
  else if tag = boolTag then (bool? cs).map .truth
  else if tag = intTag then whole? cs
  else if tag = fractionTag then if isFraction cs then some .fraction else none
  else some .text

/-- Would the text, written without quotes, stand for something other than
itself? Digits after a leading zero count too. -/
def isSpecial (cs : List Char) : Bool := isPaddedDigits cs || meaning cs != .text

end Yaml
end StageRuns
