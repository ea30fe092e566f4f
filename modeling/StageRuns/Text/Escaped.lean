/-
# Escaped text

A text between double quotes in which nothing is hidden: quotes and
backslashes are escaped, and marks that would join the character before them,
controls and other characters without a visible form are written as their code
point in braces. Error messages list names in this form.

Key definitions: `Text.escaped`, `Text.escapedList`.
-/
import StageRuns.Text.PrintTable
import StageRuns.Text.Digit

namespace StageRuns
namespace Text

/-- The code point of `c` in lower-case hexadecimal digits. -/
def hexDigits (c : Char) : List Char := Nat.toDigits 16 c.toNat

/-- One character of an escaped text. -/
def escapedChar (c : Char) : List Char :=
  if c = '\x00' then ['\\', '0']
  else if c = '\t' then ['\\', 't']
  else if c = '\r' then ['\\', 'r']
  else if c = '\n' then ['\\', 'n']
  else if c = '"' then ['\\', '"']
  else if c = '\\' then ['\\', '\\']
  else if inRanges graphemeExtendRanges c || inRanges unprintableRanges c then
    ['\\', 'u', '\x7b'] ++ hexDigits c ++ ['\x7d']
  else [c]

/-- The text in double quotes, with nothing hidden. -/
def escaped (s : String) : String :=
  String.ofList (['"'] ++ s.toList.flatMap escapedChar ++ ['"'])

/-- The texts in brackets, each escaped, with a comma and a space between. -/
def escapedList (texts : List String) : String :=
  "[" ++ ", ".intercalate (texts.map escaped) ++ "]"

end Text
end StageRuns
