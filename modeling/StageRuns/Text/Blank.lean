/-
# Blank characters

The characters with the property White_Space, and the removal of blanks from
the ends of a text. Names of resources, label keys and written identifiers are
all trimmed by this rule, so a no-break space or an ideographic space counts
as blank too.

Key definitions: `Text.isBlank`, `Text.trim`.
-/
import StageRuns.Text.Ranges

namespace StageRuns
namespace Text

/-- The ranges of White_Space. -/
def blankRanges : List (Nat × Nat) :=
  [(0x9, 0xd), (0x20, 0x20), (0x85, 0x85), (0xa0, 0xa0), (0x1680, 0x1680), (0x2000, 0x200a),
    (0x2028, 0x2029), (0x202f, 0x202f), (0x205f, 0x205f), (0x3000, 0x3000)]

/-- Is `c` white space? -/
def isBlank (c : Char) : Bool := inRanges blankRanges c

/-- The characters without the blanks they start with. -/
def trimStart (cs : List Char) : List Char := cs.dropWhile isBlank

/-- The characters without the blanks they start and end with. -/
def trimChars (cs : List Char) : List Char := (trimStart (trimStart cs).reverse).reverse

/-- The text without the blanks it starts and ends with. -/
def trim (s : String) : String := String.ofList (trimChars s.toList)

end Text
end StageRuns
