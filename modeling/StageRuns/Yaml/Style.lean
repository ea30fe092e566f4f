/-
# Styles of YAML scalars

A text is written plain where that can be read back as the same text, in
quotes where it would stand for something else or where a character in it would
end it, and as a block of lines where it has more lines than one. Double
quotes are for what the other styles cannot hold: characters that are not
printable, and blanks next to line breaks.

Key definitions: `Yaml.Style`, `Yaml.canBePlain`, `Yaml.canBeSingle`,
`Yaml.canBeLiteral`, `Yaml.styleOf`, `Yaml.doubleChar`, `Yaml.literalMark`.
-/
import StageRuns.Yaml.Character
import StageRuns.Yaml.Scalar

namespace StageRuns
namespace Yaml

/-- How a text is written. -/
inductive Style where
  | plain
  | singleQuoted
  | doubleQuoted
  | literal
deriving Repr, DecidableEq

/-! ### What a text allows -/

/-- Does some character of one class stand right before one of another? -/
def hasPair (p q : Char → Bool) : List Char → Bool
  | c :: d :: cs => (p c && q d) || hasPair p q (d :: cs)
  | _ => false

/-- Do the characters start with a mark of a document's start or end, or with
an indicator? -/
def startsWithIndicator : List Char → Bool
  | '-' :: '-' :: '-' :: _ => true
  | '.' :: '.' :: '.' :: _ => true
  | [] => false
  | c :: cs => startIndicators.contains c || (['?', ':', '-'].contains c && endsWord cs)

/-- Is there a colon at the end of a word, or the start of a comment? -/
def hasInnerIndicator : Bool → List Char → Bool
  | _, [] => false
  | afterParting, c :: cs =>
    (c = ':' && endsWord cs) || (c = '#' && afterParting) || hasInnerIndicator (isParting c) cs

/-- Can the characters be written plain? -/
def canBePlain (cs : List Char) : Bool :=
  !cs.isEmpty && cs.head? != some ' ' && cs.getLast? != some ' ' && !cs.any isBreak &&
    cs.all isPrintable && !startsWithIndicator cs && !hasInnerIndicator false cs

/-- Can the characters be written in single quotes? -/
def canBeSingle (cs : List Char) : Bool :=
  cs.all isPrintable && !hasPair (· == ' ') isBreak cs && !hasPair isBreak (· == ' ') cs

/-- Can the characters be written as a block of lines? -/
def canBeLiteral (cs : List Char) : Bool :=
  cs.all isPrintable && !hasPair (· == ' ') isBreak cs && cs.getLast? != some ' '

/-- The style of a text. -/
def styleOf (cs : List Char) : Style :=
  if cs.contains '\n' then
    if canBeLiteral cs then .literal else .doubleQuoted
  else if !isSpecial cs && canBePlain cs then .plain
  else if canBeSingle cs then .singleQuoted
  else .doubleQuoted

/-! ### Double quotes -/

/-- A hexadecimal digit in upper case. -/
def upperHexDigit (n : Nat) : Char := (Nat.digitChar n).toUpper

/-- The last `width` hexadecimal digits of a number. -/
def hexDigits : Nat → Nat → List Char
  | 0, _ => []
  | width + 1, n => hexDigits width (n / 16) ++ [upperHexDigit (n % 16)]

/-- Characters whose escape is one letter. -/
def letterEscapes : List (Char × Char) :=
  [('\x00', '0'), ('\x07', 'a'), ('\x08', 'b'), ('\t', 't'), ('\n', 'n'), ('\x0b', 'v'),
    ('\x0c', 'f'), ('\r', 'r'), ('\x1b', 'e'), ('"', '"'), ('\\', '\\'), ('\x85', 'N'),
    ('\u2028', 'L'), ('\u2029', 'P')]

/-- One character in double quotes. -/
def doubleChar (c : Char) : List Char :=
  match letterEscapes.lookup c with
  | some letter => ['\\', letter]
  | none =>
    if isPrintable c then [c]
    else if c.toNat ≤ 0xff then '\\' :: 'x' :: hexDigits 2 c.toNat
    else '\\' :: 'u' :: hexDigits 4 c.toNat

/-- A text in double quotes. -/
def doubleQuoted (cs : List Char) : List Char := '"' :: (cs.flatMap doubleChar ++ ['"'])

/-! ### Blocks of lines -/

/-- The mark above a block of lines: the width of its indentation if that
cannot be seen from the first line, and whether the last line is ended once
(no sign), not at all, or followed by empty lines. -/
def literalMark (cs : List Char) : List Char :=
  let width := match cs with
    | c :: _ => if c = ' ' || isBreak c then ['2'] else []
    | [] => []
  let ending := match cs.reverse with
    | c :: d :: _ => if !isBreak c then ['-'] else if isBreak d then ['+'] else []
    | [c] => if isBreak c then ['+'] else ['-']
    | [] => ['-']
  '|' :: (width ++ ending)

end Yaml
end StageRuns
