/-
# Lower case and comparison without case

`Text.lower` is the full lower-case mapping: nearly every character maps to
one, the dotted capital I maps to two, and a capital sigma that ends a word
takes its final form. `Text.asciiLower` touches the letters A to Z only;
`Text.sameName` compares by it, and is how stages, jobs and materials are
looked up.

Key definitions: `Text.lower`, `Text.asciiLower`, `Text.sameName`.
Key theorems: `Text.sameName_iff`.
-/
import StageRuns.Text.CaseTable

namespace StageRuns
namespace Text

/-- The lower-case form of one character, sigma apart. -/
def lowerChar (c : Char) : List Char :=
  if c = '\u0130' then ['i', '\u0307']
  else [(lowerShifts.findSome? fun shift => shift.apply? c).getD c]

/-- Is the first character that case does not ignore a cased one? -/
def meetsCased (cs : List Char) : Bool :=
  match cs.dropWhile (inRanges caseIgnorableRanges) with
  | [] => false
  | c :: _ => inRanges casedRanges c

/-- The lower-case form of the characters that follow `before`, which holds
what came earlier, the nearest first. A sigma is final if a cased character
comes before it and none after it. -/
def lowerAfter (before : List Char) : List Char → List Char
  | [] => []
  | c :: cs =>
    let form :=
      if c = 'Σ' then (if meetsCased before && !meetsCased cs then ['ς'] else ['σ'])
      else lowerChar c
    form ++ lowerAfter (c :: before) cs

/-- The full lower-case form of a text. -/
def lower (s : String) : String := String.ofList (lowerAfter [] s.toList)

/-- The text with the letters A to Z in lower case. -/
def asciiLower (s : String) : String := String.ofList (s.toList.map Char.toLower)

/-- Are two names equal up to the case of the letters A to Z? -/
def sameName (a b : String) : Bool := asciiLower a == asciiLower b

theorem sameName_iff {a b : String} : sameName a b = true ↔ asciiLower a = asciiLower b := by
  simp [sameName]

theorem sameName_self (a : String) : sameName a a = true := by simp [sameName]

theorem sameName_comm (a b : String) : sameName a b = sameName b a := BEq.comm

end Text
end StageRuns
