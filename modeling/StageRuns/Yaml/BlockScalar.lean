/-
# Blocks of lines

A mark announces a text that is a block of lines. Its lines are indented by as
many columns as the mark says, or as its first line that is not empty. The
breaks between them stand as they are, or are folded: a single line feed
between two lines that start with no blank becomes a space. The mark also says
what becomes of the breaks at the end.

Key definitions: `Yaml.BlockMark`, `Yaml.BlockMark.read?`, `Yaml.Line`,
`Yaml.BlockBody`, `Yaml.readBlock`.
-/
import StageRuns.Yaml.Draft

namespace StageRuns
namespace Yaml

/-- What becomes of the breaks at the end of a block. -/
inductive Ending where
  | once
  | strip
  | keep
deriving Repr, DecidableEq

/-- The mark above a block of lines. -/
structure BlockMark where
  isFolded : Bool
  ending : Ending
  /-- The width of the indentation, if it is given. -/
  width : Option Nat
deriving Repr, DecidableEq

namespace BlockMark

/-- The ending that a sign asks for. -/
def ending? (c : Char) : Option Ending :=
  if c = '+' then some .keep else if c = '-' then some .strip else none

/-- The width that a digit asks for, which may not be zero. -/
def width? (c : Char) : Option Nat :=
  if c.isDigit && c != '0' then some (c.toNat - 48) else none

/-- The mark whose signs stand here, a sign and a digit in any order, before a
comment at most. -/
def read? (isFolded : Bool) (cs : List Char) : Option BlockMark :=
  let signs := cs.takeWhile fun c => c.isDigit || c = '+' || c = '-'
  let after := (cs.drop signs.length).dropWhile isBlank
  if after.isEmpty || after.head? == some '#' then
    match signs with
    | [] => some ⟨isFolded, .once, none⟩
    | [c] =>
      match ending? c, width? c with
      | some e, _ => some ⟨isFolded, e, none⟩
      | none, some w => some ⟨isFolded, .once, some w⟩
      | none, none => none
    | [c, d] =>
      match ending? c, width? d, width? c, ending? d with
      | some e, some w, _, _ => some ⟨isFolded, e, some w⟩
      | _, _, some w, some e => some ⟨isFolded, e, some w⟩
      | _, _, _, _ => none
    | _ => none
  else none

end BlockMark

/-! ### Lines -/

/-- A line with the break that ends it, if there is one. -/
structure Line where
  chars : List Char
  ending : Option Char
deriving Repr, DecidableEq

namespace Line

/-- The lines of a text. Only the last has no break. -/
def split : List Char → List Line
  | [] => [⟨[], none⟩]
  | c :: cs =>
    if isBreak c then ⟨[], some c⟩ :: split cs
    else match split cs with
      | [] => [⟨[c], none⟩]
      | line :: lines => { line with chars := c :: line.chars } :: lines

/-- The text of lines. -/
def join (lines : List Line) : List Char :=
  lines.flatMap fun line => line.chars ++ line.ending.toList

/-- The number of spaces that the line starts with. -/
def indentation (line : Line) : Nat := (line.chars.takeWhile (· == ' ')).length

/-- Does the line have nothing but spaces? -/
def isEmpty (line : Line) : Bool := line.chars.all (· == ' ')

/-- Does the line start with a tab after its spaces? -/
def hasTab (line : Line) : Bool := (line.chars.drop line.indentation).head? == some '\t'

end Line

/-- The widest indentation up to the first line that is not empty, unless a tab
stands there. -/
def widestStart? : List Line → Option Nat
  | [] => some 0
  | line :: lines =>
    if line.isEmpty then (widestStart? lines).map (max line.chars.length)
    else if line.hasTab then none
    else some line.indentation

/-! ### Bodies -/

/-- What has been read of a block. -/
structure BlockBody where
  /-- The characters, the latest first. -/
  chars : List Char
  /-- The break after them. -/
  due : Option Char
  /-- The breaks of the empty lines after that, the latest first. -/
  empty : List Char
  /-- Did the last line start with a blank? -/
  isIndented : Bool
deriving Repr

namespace BlockBody

/-- Nothing read yet. -/
def start : BlockBody := ⟨[], none, [], false⟩

/-- The body with a line that is not empty. -/
def addLine (b : BlockBody) (isFolded : Bool) (line : Line) : BlockBody :=
  let isIndented := line.chars.head?.any isBlank
  let between :=
    if isFolded && b.due == some '\n' && !b.isIndented && !isIndented then
      if b.empty.isEmpty then [' '] else []
    else b.due.toList
  ⟨line.chars.reverse ++ (b.empty ++ (between ++ b.chars)), line.ending, [], isIndented⟩

/-- The text of the body. -/
def finish (b : BlockBody) : Ending → String
  | .strip => String.ofList b.chars.reverse
  | .once => String.ofList (b.chars.reverse ++ b.due.toList)
  | .keep => String.ofList (b.chars.reverse ++ b.due.toList ++ b.empty.reverse)

end BlockBody

/-- The text of the lines with the indentation and the lines after them; none
where a tab stands for indentation. -/
def readBody (m : BlockMark) (indent : Nat) (b : BlockBody) : List Line → Option (String × List Line)
  | [] => some (b.finish m.ending, [])
  | line :: lines =>
    if line.isEmpty && line.chars.length ≤ indent then
      readBody m indent { b with empty := line.ending.toList ++ b.empty } lines
    else if indent ≤ line.indentation then
      readBody m indent (b.addLine m.isFolded { line with chars := line.chars.drop indent }) lines
    else if line.hasTab then none
    else some (b.finish m.ending, line :: lines)

/-- The text of a block whose mark has the characters of the place after it, and
the place after the block. Lines that are not further in than what the block
belongs to, which stands before column `least`, are no part of it. -/
def readBlock (isFolded : Bool) (least : Nat) (p : Place) : Option (String × Place) := do
  match Line.split p.rest with
  | [] => none
  | front :: lines =>
    let m ← BlockMark.read? isFolded front.chars
    let indent ← match m.width with
      | some width => some (least - 1 + width)
      | none => (widestStart? lines).map fun widest => max widest (max least 1)
    let (text, left) ← readBody m indent .start lines
    let passed := Line.join (front :: lines.take (lines.length - left.length))
    return (text, p.skip passed.length)

end Yaml
end StageRuns
