/-
# YAML tokens

The characters of a text become tokens. In block style the columns say what
belongs to what: a list or object begins where a dash or a key stands further
in than the block around it, and ends where a line starts further out. A key is
known by the colon after it, so the place where one may start is kept as a
candidate: when the colon comes, the token of the key is put in there. A
candidate is given up with its line, or after 1024 bytes; one that starts a
line of an object must turn out to be a key. A byte order mark may start a
line, and takes up a column.

Key definitions: `Yaml.Token`, `Yaml.Candidate`, `Yaml.Lexer`,
`Yaml.Lexer.next`, `Yaml.tokens?`.
-/
import StageRuns.Yaml.BlockScalar
import StageRuns.Yaml.FlowScalar
import StageRuns.Yaml.Property

namespace StageRuns
namespace Yaml

/-- A token of YAML. -/
inductive Token where
  | directive (directive : Directive)
  /-- The mark of a document's start. -/
  | start
  /-- The mark of a document's end. -/
  | stop
  /-- The place where a list in block style begins. -/
  | openItems
  /-- The place where an object in block style begins. -/
  | openMembers
  /-- The place where a list or object in block style ends. -/
  | closeBlock
  /-- The dash in front of an item. -/
  | dash
  /-- The place of a key. -/
  | key
  /-- The colon in front of a value. -/
  | value
  | openArray
  | closeArray
  | openObject
  | closeObject
  | comma
  | anchor (name : String)
  | alias (name : String)
  | tag (tag : WrittenTag)
  | plain (scalar : String)
  | text (value : String)
  /-- A text that is a block of lines as they stand. -/
  | literal (value : String)
deriving Repr, DecidableEq

/-- A place where a key may have started. -/
structure Candidate where
  isRequired : Bool
  /-- The number of tokens before it. -/
  index : Nat
  position : Position
deriving Repr

namespace Candidate

/-- Is the candidate too far back to be a key? -/
def isStale (c : Candidate) (p : Position) : Bool :=
  c.position.line < p.line || c.position.offset + 1024 < p.offset

/-- The candidate without the right to be a key, if it can do without. -/
def drop : Option Candidate → Option (Option Candidate)
  | some c => if c.isRequired then none else some none
  | none => some none

/-- The candidate as it is seen from a position. -/
def refresh (p : Position) : Option Candidate → Option (Option Candidate)
  | some c => if c.isStale p then drop (some c) else some (some c)
  | none => some none

end Candidate

/-- Where the reading of tokens is. -/
structure Lexer where
  place : Place
  /-- The tokens so far, the latest first. -/
  tokens : List Token
  /-- The number of tokens so far. -/
  count : Nat
  /-- The columns of the open blocks, the innermost first. -/
  blocks : List Nat
  /-- The candidate within the innermost brackets. -/
  candidate : Option Candidate
  /-- The candidates outside of the open brackets, the innermost first. -/
  enclosing : List (Option Candidate)
  /-- May a key start here? Outside brackets, may a dash or a mark of a key or
  value stand here? -/
  mayBeKey : Bool
deriving Repr

namespace Lexer

/-- Are there open brackets? -/
def inBrackets (l : Lexer) : Bool := !l.enclosing.isEmpty

/-- The least column that is further in than the innermost block. -/
def least (l : Lexer) : Nat :=
  match l.blocks with
  | [] => 0
  | column :: _ => column + 1

/-- The column of the next token. -/
def column (l : Lexer) : Nat := l.place.position.column

/-- The lexer with a token. -/
def push (l : Lexer) (t : Token) : Lexer :=
  { l with tokens := t :: l.tokens, count := l.count + 1 }

/-- The lexer at another place, with a token and whether a key may follow. -/
def moveTo (l : Lexer) (t : Token) (place : Place) (mayBeKey : Bool) : Lexer :=
  { l.push t with place, mayBeKey }

/-- The lexer after a token of a number of characters. -/
def advance (l : Lexer) (t : Token) (width : Nat) (mayBeKey : Bool) : Lexer :=
  l.moveTo t (l.place.skip width) mayBeKey

/-! ### Candidates and blocks -/

/-- The lexer without a candidate. -/
def forget (l : Lexer) : Option Lexer :=
  (Candidate.drop l.candidate).map fun candidate => { l with candidate }

/-- The lexer with this place for a candidate, if a key may start here. It must
be one where it stands in the column of the innermost block. -/
def remember (l : Lexer) : Option Lexer :=
  if l.mayBeKey then
    let isRequired := !l.inBrackets && l.blocks.head? == some l.column
    l.forget.map fun l => { l with candidate := some ⟨isRequired, l.count, l.place.position⟩ }
  else some l

/-- The lexer without the candidates that are too far back. -/
def refresh (l : Lexer) : Option Lexer := do
  let candidate ← Candidate.refresh l.place.position l.candidate
  let enclosing ← l.enclosing.mapM (Candidate.refresh l.place.position)
  return { l with candidate, enclosing }

/-- The lexer with the blocks closed that `isClosed` picks by their columns, from
the innermost on. Columns do not matter inside brackets. -/
def closeBlocks (l : Lexer) (isClosed : Nat → Bool) : Lexer :=
  if l.inBrackets then l
  else
    let closed := l.blocks.takeWhile isClosed
    { l with tokens := List.replicate closed.length .closeBlock ++ l.tokens
             count := l.count + closed.length
             blocks := l.blocks.drop closed.length }

/-- Does a block begin in the column? -/
def startsBlock (l : Lexer) (column : Nat) : Bool := !l.inBrackets && l.least ≤ column

/-- The lexer with a block that begins here, if there is one. -/
def openBlock (l : Lexer) (t : Token) : Lexer :=
  if l.startsBlock l.column then { l.push t with blocks := l.column :: l.blocks }
  else l

/-- The lexer with the candidate as a key. -/
def insertKey (l : Lexer) (c : Candidate) : Lexer :=
  let (later, earlier) := l.tokens.splitAt (l.count - c.index)
  if l.startsBlock c.position.column then
    { l with tokens := later ++ .key :: .openMembers :: earlier, count := l.count + 2
             blocks := c.position.column :: l.blocks, candidate := none }
  else { l with tokens := later ++ .key :: earlier, count := l.count + 1, candidate := none }

/-! ### Tokens by their first character -/

/-- A directive. -/
def directive (l : Lexer) (cs : List Char) : Option Lexer := do
  let line := cs.takeWhile fun c => !isBreak c
  let directive ← Directive.read? line
  let l ← (l.closeBlocks fun _ => true).forget
  return l.advance (.directive directive) (line.length + 1) false

/-- The mark of a document's start or end. -/
def mark (l : Lexer) (c : Char) : Option Lexer := do
  let l ← (l.closeBlocks fun _ => true).forget
  return l.advance (if c = '-' then .start else .stop) 3 false

/-- An opening bracket. -/
def openBracket (l : Lexer) (t : Token) : Option Lexer := do
  let l ← l.remember
  return { l.advance t 1 true with candidate := none, enclosing := l.candidate :: l.enclosing }

/-- A closing bracket. -/
def closeBracket (l : Lexer) (t : Token) : Option Lexer := do
  let l ← l.forget
  let l := l.advance t 1 false
  match l.enclosing with
  | [] => return l
  | candidate :: enclosing => return { l with candidate, enclosing }

/-- A comma. -/
def comma (l : Lexer) : Option Lexer := do
  return (← l.forget).advance .comma 1 true

/-- The dash of an item. -/
def dash (l : Lexer) : Option Lexer := do
  if !l.inBrackets && !l.mayBeKey then none
  else return (← (l.openBlock .openItems).forget).advance .dash 1 true

/-- The mark of a key. -/
def key (l : Lexer) : Option Lexer := do
  if !l.inBrackets && !l.mayBeKey then none
  else return (← (l.openBlock .openMembers).forget).advance .key 1 (!l.inBrackets)

/-- The colon in front of a value: after a candidate, or after the mark of a
key. -/
def value (l : Lexer) : Option Lexer :=
  match l.candidate with
  | some c => some ((l.insertKey c).advance .value 1 false)
  | none =>
    if !l.inBrackets && !l.mayBeKey then none
    else some ((l.openBlock .openMembers).advance .value 1 (!l.inBrackets))

/-- A token in front of a value, of a number of characters after its first. -/
def property (l : Lexer) (t : Token) (width : Nat) : Option Lexer := do
  return (← l.remember).advance t (width + 1) false

/-- A quoted scalar. -/
def quoted (l : Lexer) (scanned : Option (Draft × List Char)) : Option Lexer := do
  let (d, rest) ← scanned
  return (← l.remember).moveTo (.text d.text) (d.place rest) false

/-- A plain scalar. A key may start on a line of its own after it. -/
def plain (l : Lexer) : Option Lexer := do
  let (d, rest) ← readPlain l.inBrackets l.least (.start l.place.position) l.place.rest
  return (← l.remember).moveTo (.plain d.text) (d.place rest) d.gap.hasBreak

/-- A block of lines. -/
def block (l : Lexer) (isFolded : Bool) : Option Lexer := do
  let (text, place) ← readBlock isFolded l.least (l.place.skip 1)
  return (← l.forget).moveTo (if isFolded then .text text else .literal text) place true

/-- May a plain scalar start with `c` before `cs`? -/
def startsPlain (l : Lexer) (c : Char) (cs : List Char) : Bool :=
  !(isParting c || startIndicators.contains c || ['-', '?', ':'].contains c) ||
    (c = '-' && !cs.head?.any isBlank) ||
    (!l.inBrackets && (c = '?' || c = ':') && !endsWord cs)

/-- The lexer after the token that starts with `c`, which is no blank, before
`cs`. -/
def next (l : Lexer) (c : Char) (cs : List Char) : Option Lexer :=
  let within := Draft.start (l.place.position.past c)
  if l.column = 0 && c = '%' then l.directive cs
  else if l.column = 0 && isMark (c :: cs) then l.mark c
  else if c = '[' then l.openBracket .openArray
  else if c = '\x7b' then l.openBracket .openObject
  else if c = ']' then l.closeBracket .closeArray
  else if c = '\x7d' then l.closeBracket .closeObject
  else if c = ',' then l.comma
  else if c = '-' && endsWord cs then l.dash
  else if c = '?' && (l.inBrackets || endsWord cs) then l.key
  else if c = ':' && (l.inBrackets || endsWord cs) then l.value
  else if c = '*' then (readAnchor cs).bind fun name => l.property (.alias name) name.length
  else if c = '&' then (readAnchor cs).bind fun name => l.property (.anchor name) name.length
  else if c = '!' then (readTag l.inBrackets cs).bind fun t => l.property (.tag t.1) t.2
  else if !l.inBrackets && (c = '|' || c = '>') then l.block (c = '>')
  else if c = '\'' then l.quoted (readSingle within cs)
  else if c = '"' then l.quoted (readDouble within .outside cs)
  else if l.startsPlain c cs then l.plain
  else none

/-! ### All tokens -/

/-- Does `c` at the start of a line stand for nothing: is it a byte order
mark? -/
def isByteOrderMark (p : Position) (c : Char) : Bool := p.column = 0 && c = '\ufeff'

/-- The place of the next token, past blanks, comments and line breaks, and
whether a key may start there. Outside brackets a new line may start with a
key, and tabs may not stand where a key may start. -/
def skipBlanks (inBrackets : Bool) (p : Position) (isComment mayBeKey : Bool) :
    List Char → Place × Bool
  | [] => (⟨p, []⟩, mayBeKey)
  | c :: cs =>
    if isBreak c then skipBlanks inBrackets (p.past c) false (mayBeKey || !inBrackets) cs
    else if isComment || c = ' ' || (c = '\t' && (inBrackets || !mayBeKey)) ||
        isByteOrderMark p c then
      skipBlanks inBrackets (p.past c) isComment mayBeKey cs
    else if c = '#' then skipBlanks inBrackets (p.past c) true mayBeKey cs
    else (⟨p, c :: cs⟩, mayBeKey)

/-- The lexer at the next token, with the blocks closed that end before it. -/
def toToken (l : Lexer) : Option Lexer := do
  let (place, mayBeKey) :=
    skipBlanks l.inBrackets l.place.position false l.mayBeKey l.place.rest
  let l ← { l with place, mayBeKey }.refresh
  return l.closeBlocks (l.column < ·)

/-- All tokens from here on. Each takes up a character, so that the length of the
text is fuel enough. -/
def finish : Nat → Lexer → Option (List Token)
  | 0, _ => none
  | fuel + 1, l => do
    let l ← l.toToken
    match l.place.rest with
    | [] => return (← (l.closeBlocks fun _ => true).forget).tokens.reverse
    | c :: cs => finish fuel (← l.next c cs)

end Lexer

/-- Line breaks of all kinds but two as line feeds. -/
def normalBreaks : List Char → List Char
  | [] => []
  | '\r' :: '\n' :: cs => '\n' :: normalBreaks cs
  | c :: cs => (if c = '\r' || c = '\x85' then '\n' else c) :: normalBreaks cs

/-- The tokens of a text. -/
def tokens? (cs : List Char) : Option (List Token) :=
  if cs.all isAllowed then
    Lexer.finish (cs.length + 1) ⟨⟨.start, normalBreaks cs⟩, [], 0, [], none, [], true⟩
  else none

end Yaml
end StageRuns
