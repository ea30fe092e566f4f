/-
# YAML text

A value is written as a block: each member of an object on a line of its own,
each item of a list after a dash. Members stand two columns deeper than the
object that holds theirs; the items of a list that is a member stand right
below its key. Empty brackets stand on the line of their key or dash. A key
that is long or has more lines than one is marked by a question mark, and its
value stands on the next line. Each block ends its last line, and a text whose
last character ends a line does so by itself.

Key definitions: `Yaml.scalarBlock`, `Yaml.memberBlock`, `Yaml.blockOf`,
`Yaml.render`.
-/
import StageRuns.Json.Printer
import StageRuns.Yaml.Style

namespace StageRuns
namespace Yaml

/-- Blanks up to a column. -/
def indentation (column : Nat) : List Char := List.replicate column ' '

/-- The characters with blanks up to the column at the start of each line that is
not empty. -/
def indented (column : Nat) (isStart : Bool) : List Char → List Char
  | [] => []
  | c :: cs =>
    if isBreak c then c :: indented column true cs
    else (if isStart then indentation column else []) ++ c :: indented column false cs

/-- A text on one line, or in quotes around lines that stand at the column. -/
def inlineChars (column : Nat) (cs : List Char) : List Char :=
  match styleOf cs with
  | .singleQuoted =>
    let doubled := cs.flatMap fun c => if c = '\'' then ['\'', '\''] else [c]
    '\'' :: indented column false (doubled ++ ['\''])
  | .doubleQuoted => doubleQuoted cs
  | _ => cs

/-- A text whose further lines stand at the column, with the end of its last
line. -/
def scalarBlock (column : Nat) (s : String) : List Char :=
  let cs := s.toList
  match styleOf cs with
  | .literal =>
    let ending := if cs.getLast?.any isBreak then [] else ['\n']
    literalMark cs ++ '\n' :: indented column true cs ++ ending
  | _ => inlineChars column cs ++ ['\n']

/-- Does the text fit into one line as a key? -/
def isShortKey (s : String) : Bool := s.utf8ByteSize ≤ 128 && !s.toList.any isBreak

/-- Is the value written on lines below its key, and if so, how many columns
deeper? -/
def depthBelowKey? : Json → Option Nat
  | .object (_ :: _) => some 2
  | .array (_ :: _) => some 0
  | _ => none

/-- A member, from its key and the block of its value at any column. -/
def memberBlock (column : Nat) (key : String) (value : Json) (blockAt : Nat → List Char) :
    List Char :=
  if isShortKey key then
    inlineChars (column + 2) key.toList ++ ':' ::
      match depthBelowKey? value with
      | some depth => '\n' :: indentation (column + depth) ++ blockAt (column + depth)
      | none => ' ' :: blockAt (column + 2)
  else
    '?' :: ' ' :: scalarBlock (column + 2) key ++ indentation column ++
      ':' :: ' ' :: blockAt (column + 2)

mutual

/-- A value from its column to the end of its last line. -/
def blockOf : Json → Nat → List Char
  | .null, _ => ['n', 'u', 'l', 'l', '\n']
  | .bool b, _ => Json.boolChars b ++ ['\n']
  | .int n, _ => Text.digitsOfInt n ++ ['\n']
  | .text s, column => scalarBlock column s
  | .array [], _ => ['[', ']', '\n']
  | .array (item :: items), column =>
    '-' :: ' ' :: blockOf item (column + 2) ++ itemLines items column
  | .object [], _ => ['\x7b', '\x7d', '\n']
  | .object ((key, value) :: members), column =>
    memberBlock column key value (blockOf value) ++ memberLines members column

/-- The lines of the items that follow the first one. -/
def itemLines : List Json → Nat → List Char
  | [], _ => []
  | item :: items, column =>
    indentation column ++ '-' :: ' ' :: blockOf item (column + 2) ++ itemLines items column

/-- The lines of the members that follow the first one. -/
def memberLines : List (String × Json) → Nat → List Char
  | [], _ => []
  | (key, value) :: members, column =>
    indentation column ++ memberBlock column key value (blockOf value) ++
      memberLines members column

end

/-- A value as YAML, with the end of its last line. The lines of a text on its own
stand in column two. -/
def render (j : Json) : String :=
  match j with
  | .text s => String.ofList (scalarBlock 2 s)
  | j => String.ofList (blockOf j 0)

end Yaml
end StageRuns
