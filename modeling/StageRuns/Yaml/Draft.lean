/-
# Scalars while they are read

A scalar may go on over several lines. The blanks around a line break are
dropped and the break becomes a space, while each empty line in between is a
break; the two breaks that are no line feeds stand as they are. An escaped
break leaves nothing.

Key definitions: `Yaml.Position`, `Yaml.Place`, `Yaml.Gap`, `Yaml.Gap.folded`,
`Yaml.Draft`.
-/
import StageRuns.Yaml.Character

namespace StageRuns
namespace Yaml

/-- A position in a text: its line and column, and the number of bytes before
it. -/
structure Position where
  line : Nat
  column : Nat
  offset : Nat
deriving Repr, DecidableEq

namespace Position

/-- The position where a text starts. -/
def start : Position := ⟨0, 0, 0⟩

/-- The position after a character. -/
def past (p : Position) (c : Char) : Position :=
  if isBreak c then ⟨p.line + 1, 0, p.offset + c.utf8Size⟩
  else ⟨p.line, p.column + 1, p.offset + c.utf8Size⟩

end Position

/-- A place in a text: its position, and the characters from there on. -/
structure Place where
  position : Position
  rest : List Char
deriving Repr

namespace Place

/-- The place after a number of characters. -/
def skip : Nat → Place → Place
  | n + 1, ⟨position, c :: cs⟩ => skip n ⟨position.past c, cs⟩
  | _, p => p

end Place

/-- What stands between two words of a scalar, the latest first. -/
inductive Gap where
  /-- Blanks on one line. -/
  | blanks (chars : List Char)
  /-- A break, none if it is escaped, and the breaks of empty lines. -/
  | lines (first : Option Char) (empty : List Char)
deriving Repr, DecidableEq

namespace Gap

/-- No gap. -/
def none : Gap := blanks []

/-- The gap with a blank or a break after it. -/
def add : Gap → Char → Gap
  | blanks chars, c => if isBreak c then lines (some c) [] else blanks (c :: chars)
  | lines first empty, c => if isBreak c then lines first (c :: empty) else lines first empty

/-- What the gap stands for, the latest first. -/
def folded : Gap → List Char
  | blanks chars => chars
  | lines first empty =>
    match first with
    | Option.none => empty
    | some c => if c != '\n' then empty ++ [c] else if empty.isEmpty then [' '] else empty

/-- Does the gap have a line break? -/
def hasBreak : Gap → Bool
  | blanks _ => false
  | lines _ _ => true

/-- Is there a gap at all? -/
def isSome : Gap → Bool
  | blanks [] => false
  | _ => true

end Gap

/-- What has been read of a scalar, and where the reading is. -/
structure Draft where
  /-- The characters, the latest first. -/
  chars : List Char
  /-- The gap after them. -/
  gap : Gap
  position : Position
deriving Repr

namespace Draft

/-- Nothing read yet. -/
def start (position : Position) : Draft := ⟨[], .none, position⟩

/-- The text that was read. -/
def text (d : Draft) : String := String.ofList d.chars.reverse

/-- The place before the characters that are left. -/
def place (d : Draft) (rest : List Char) : Place := ⟨d.position, rest⟩

/-- The draft with what the gap stands for. -/
def settle (d : Draft) : Draft := { d with chars := d.gap.folded ++ d.chars, gap := .none }

/-- The draft past a character that stands for nothing itself. -/
def skip (d : Draft) (written : Char) : Draft :=
  { d.settle with position := d.position.past written }

/-- The draft past a character that ends what stands for another one. -/
def pushMeaning (d : Draft) (written meaning : Char) : Draft :=
  { d.skip written with chars := meaning :: d.settle.chars }

/-- The draft past a character that stands for itself. -/
def push (d : Draft) (c : Char) : Draft := d.pushMeaning c c

/-- The draft past a blank or a break. -/
def addBlank (d : Draft) (c : Char) : Draft :=
  { d with gap := d.gap.add c, position := d.position.past c }

/-- The draft past a break that an escape takes away. -/
def addEscapedBreak (d : Draft) (c : Char) : Draft :=
  { d.settle with gap := .lines none [], position := d.position.past c }

end Draft
end Yaml
end StageRuns
