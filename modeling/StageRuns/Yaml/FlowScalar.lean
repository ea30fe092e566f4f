/-
# Plain and quoted scalars

A plain scalar ends where a comment, a colon at the end of a word, the mark of
a document or a line with too little indentation begins; inside brackets the
indicators of brackets end it too, and may not come right after a colon. A
quoted scalar ends at its closing quote. Double quotes know escapes, of which
some have one letter and some the digits of a code.

Key definitions: `Yaml.readPlain`, `Yaml.readSingle`, `Yaml.readDouble`.
-/
import StageRuns.Yaml.Draft
import StageRuns.Yaml.Scalar

namespace StageRuns
namespace Yaml

/-! ### Plain scalars -/

/-- Characters that end a plain scalar inside brackets. -/
def bracketIndicators : List Char := [',', '[', ']', '\x7b', '\x7d']

/-- Does a plain scalar end before these characters? Lines outside brackets need
at least the given indentation to go on with it. -/
def Draft.endsBefore (d : Draft) (inBrackets : Bool) (least : Nat) (cs : List Char) : Bool :=
  match cs with
  | [] => true
  | c :: rest =>
    (d.gap.hasBreak && !inBrackets && d.position.column < least) ||
      (c = '#' && d.gap.isSome) ||
      (d.position.column = 0 && isMark cs) ||
      (c = ':' && endsWord rest) ||
      (inBrackets && bracketIndicators.contains c)

/-- Is a colon inside brackets followed by an indicator? -/
def hasLooseColon (c : Char) (rest : List Char) : Bool :=
  c = ':' && rest.head?.any fun d => d = '?' || bracketIndicators.contains d

/-- A plain scalar with the gap after it, and the characters after that. A tab
may not stand where indentation is missing. -/
def readPlain (inBrackets : Bool) (least : Nat) (d : Draft) :
    List Char → Option (Draft × List Char)
  | [] => some (d, [])
  | c :: cs =>
    if isBlank c || isBreak c then
      if c = '\t' && d.gap.hasBreak && d.position.column < least then none
      else readPlain inBrackets least (d.addBlank c) cs
    else if d.endsBefore inBrackets least (c :: cs) then some (d, c :: cs)
    else if inBrackets && hasLooseColon c cs then none
    else readPlain inBrackets least (d.push c) cs

/-! ### Single quotes -/

/-- Does the mark of a document interrupt a quoted scalar here? -/
def Draft.isCutOff (d : Draft) (cs : List Char) : Bool := d.position.column = 0 && isMark cs

/-- The rest of a text in single quotes, and the characters after the closing
quote. -/
def readSingle (d : Draft) : List Char → Option (Draft × List Char)
  | [] => none
  | '\'' :: '\'' :: cs => readSingle ((d.skip '\'').push '\'') cs
  | c :: cs =>
    if c = '\'' then some (d.skip c, cs)
    else if isBlank c || isBreak c then readSingle (d.addBlank c) cs
    else if d.isCutOff (c :: cs) then none
    else readSingle (d.push c) cs

/-! ### Double quotes -/

/-- What a text in double quotes is in the middle of. -/
inductive Escape where
  | outside
  | letter
  /-- Digits still to come, and the value of those before. -/
  | code (left value : Nat)
deriving Repr, DecidableEq

/-- Escapes of one letter for one character. -/
def letterMeanings : List (Char × Char) :=
  [('0', '\x00'), ('a', '\x07'), ('b', '\x08'), ('t', '\t'), ('\t', '\t'), ('n', '\n'),
    ('v', '\x0b'), ('f', '\x0c'), ('r', '\r'), ('e', '\x1b'), (' ', ' '), ('"', '"'), ('/', '/'),
    ('\\', '\\'), ('N', '\x85'), ('_', '\xa0'), ('L', '\u2028'), ('P', '\u2029')]

/-- The number of digits after the letter of an escape by code. -/
def codeWidth? (c : Char) : Option Nat :=
  if c = 'x' then some 2 else if c = 'u' then some 4 else if c = 'U' then some 8 else none

/-- The character of a code, if it has one. -/
def charOfCode? (n : Nat) : Option Char :=
  if n < 0xd800 ∨ (0xdfff < n ∧ n ≤ 0x10ffff) then some (Char.ofNat n) else none

/-- The rest of a text in double quotes, and the characters after the closing
quote. -/
def readDouble (d : Draft) : Escape → List Char → Option (Draft × List Char)
  | _, [] => none
  | .outside, c :: cs =>
    if c = '"' then some (d.skip c, cs)
    else if c = '\\' then readDouble (d.skip c) .letter cs
    else if isBlank c || isBreak c then readDouble (d.addBlank c) .outside cs
    else if d.isCutOff (c :: cs) then none
    else readDouble (d.push c) .outside cs
  | .letter, c :: cs =>
    if isBreak c then readDouble (d.addEscapedBreak c) .outside cs
    else match letterMeanings.lookup c, codeWidth? c with
      | some meaning, _ => readDouble (d.pushMeaning c meaning) .outside cs
      | none, some width => readDouble (d.skip c) (.code width 0) cs
      | none, none => none
  | .code left value, c :: cs =>
    match digitValue? 16 c with
    | none => none
    | some digit =>
      if left ≤ 1 then
        match charOfCode? (value * 16 + digit) with
        | some meaning => readDouble (d.pushMeaning c meaning) .outside cs
        | none => none
      else readDouble (d.skip c) (.code (left - 1) (value * 16 + digit)) cs

end Yaml
end StageRuns
