/-
# Characters of YAML

The classes of characters that reading and writing share: line breaks, of which
there are five, blanks, and the characters that may stand for themselves.

Key definitions: `Yaml.isBreak`, `Yaml.isBlank`, `Yaml.isParting`,
`Yaml.isPrintable`, `Yaml.isAllowed`, `Yaml.endsWord`, `Yaml.isMark`.
-/
namespace StageRuns
namespace Yaml

/-- Does `c` end a line? -/
def isBreak (c : Char) : Bool :=
  c = '\n' || c = '\r' || c = '\x85' || c = '\u2028' || c = '\u2029'

/-- Is `c` a space or a tab? -/
def isBlank (c : Char) : Bool := c = ' ' || c = '\t'

/-- Does `c` part words: a blank, a line break or the end? -/
def isParting (c : Char) : Bool := isBlank c || c = '\x00' || isBreak c

/-- May `c` stand for itself outside double quotes? -/
def isPrintable (c : Char) : Bool :=
  let n := c.toNat
  n = 0xa || (0x20 ≤ n && n ≤ 0x7e) || (0xa0 ≤ n && n != 0xfeff && n != 0xfffe && n != 0xffff)

/-- May `c` be part of a text that is read? -/
def isAllowed (c : Char) : Bool :=
  isPrintable c || c = '\t' || c = '\r' || c = '\x85' || c = '\ufeff'

/-- May `c` be part of the name of an anchor or a handle? -/
def isNameChar (c : Char) : Bool := c.isAlphanum || c = '_' || c = '-'

/-- Do the characters end here, or does a blank or break follow? -/
def endsWord : List Char → Bool
  | [] => true
  | c :: _ => isParting c

/-- Is this the mark of a document's start or end? -/
def isMark : List Char → Bool
  | '-' :: '-' :: '-' :: cs => endsWord cs
  | '.' :: '.' :: '.' :: cs => endsWord cs
  | _ => false

/-- Characters with a meaning of their own at the start of a scalar. -/
def startIndicators : List Char :=
  ['#', ',', '[', ']', '\x7b', '\x7d', '&', '*', '!', '|', '>', '\'', '"', '%', '@', '\x60']

end Yaml
end StageRuns
