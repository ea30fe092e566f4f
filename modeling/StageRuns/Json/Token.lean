/-
# JSON tokens

The characters of a text become tokens in one pass: each character takes a
scanner from one state to the next and completes some tokens on the way. A
text token whose escapes name half of a surrogate pair has no text, and no one
minds unless it is read. Where no token can be made the scanner reports a
fault and stops.

Key definitions: `Json.Token`, `Json.Scanner`, `Json.Scanner.step`,
`Json.tokens`.
-/
import StageRuns.Json.Number

namespace StageRuns
namespace Json

/-- A token of JSON. -/
inductive Token where
  | openArray
  | closeArray
  | openObject
  | closeObject
  | comma
  | colon
  /-- A value other than a text, a list or an object. -/
  | scalar (value : Document)
  /-- A quoted text; without a value, one that holds half a pair. -/
  | text (value : Option String)
  /-- The place where no token can be made. -/
  | fault
deriving Repr

/-! ### Quoted texts -/

/-- A part of a quoted text: a character, or a 16-bit code. -/
inductive Piece where
  | char (c : Char)
  | code (n : Nat)
deriving Repr, DecidableEq

/-- The character of a pair of codes, the first from D800 to DBFF and the
second from DC00 to DFFF. -/
def pairChar (high low : Nat) : Char :=
  Char.ofNat (0x10000 + (high - 0xd800) * 1024 + (low - 0xdc00))

/-- The characters that the pieces stand for, unless a code is half of a
pair. -/
def joinPieces : List Piece → Option (List Char)
  | [] => some []
  | .char c :: rest => (joinPieces rest).map (c :: ·)
  | .code high :: .code low :: rest =>
    if 0xd800 ≤ high ∧ high ≤ 0xdbff ∧ 0xdc00 ≤ low ∧ low ≤ 0xdfff then
      (joinPieces rest).map (pairChar high low :: ·)
    else if 0xd800 ≤ high ∧ high ≤ 0xdfff then none
    else (joinPieces (.code low :: rest)).map (Char.ofNat high :: ·)
  | .code n :: rest =>
    if 0xd800 ≤ n ∧ n ≤ 0xdfff then none else (joinPieces rest).map (Char.ofNat n :: ·)

/-- The token of a quoted text. -/
def textToken (pieces : List Piece) : Token := .text ((joinPieces pieces).map String.ofList)

/-- The character that a one-letter escape stands for. -/
def escapeChar? (c : Char) : Option Char :=
  if c = '"' ∨ c = '\\' ∨ c = '/' then some c
  else if c = 'b' then some '\x08'
  else if c = 'f' then some '\x0c'
  else if c = 'n' then some '\n'
  else if c = 'r' then some '\r'
  else if c = 't' then some '\t'
  else none

/-- The value of a hexadecimal digit in either case. -/
def hexValue? (c : Char) : Option Nat :=
  if '0' ≤ c ∧ c ≤ '9' then some (c.toNat - 48)
  else if 'a' ≤ c ∧ c ≤ 'f' then some (c.toNat - 87)
  else if 'A' ≤ c ∧ c ≤ 'F' then some (c.toNat - 55)
  else none

/-! ### The scanner -/

/-- What the scanner is in the middle of. What it has gathered is kept with the
latest first. -/
inductive Scanner where
  | between
  | word (letters : List Char)
  | number (chars : List Char)
  | quote (pieces : List Piece)
  | escape (pieces : List Piece)
  /-- Inside a four-digit escape, with the count of digits and their value. -/
  | hex (pieces : List Piece) (count value : Nat)
  | stopped
deriving Repr

namespace Scanner

/-- The token of a word. -/
def wordToken (letters : List Char) : Token :=
  match letters with
  | ['n', 'u', 'l', 'l'] => .scalar .null
  | ['t', 'r', 'u', 'e'] => .scalar (.bool true)
  | ['f', 'a', 'l', 's', 'e'] => .scalar (.bool false)
  | _ => .fault

/-- The token of the characters of a number. -/
def numberToken (chars : List Char) : Token :=
  match readNumber? chars with
  | some value => .scalar value
  | none => .fault

/-- Is `c` one of the blanks that may stand between tokens? -/
def isSpace (c : Char) : Bool := c = ' ' || c = '\n' || c = '\t' || c = '\r'

/-- May `c` be part of a number? -/
def isNumberChar (c : Char) : Bool :=
  c.isDigit || c = '-' || c = '+' || c = '.' || c = 'e' || c = 'E'

/-- A character where a token may start. -/
def start (c : Char) : List Token × Scanner :=
  if isSpace c then ([], between)
  else if c = '[' then ([.openArray], between)
  else if c = ']' then ([.closeArray], between)
  else if c = '\x7b' then ([.openObject], between)
  else if c = '\x7d' then ([.closeObject], between)
  else if c = ',' then ([.comma], between)
  else if c = ':' then ([.colon], between)
  else if c = '"' then ([], quote [])
  else if c = '-' ∨ c.isDigit then ([], number [c])
  else if c.isLower then ([], word [c])
  else ([.fault], stopped)

/-- One character: the tokens it completes and what the scanner is in the
middle of after it. -/
def step : Scanner → Char → List Token × Scanner
  | between, c => start c
  | word letters, c =>
    if c.isLower then ([], word (c :: letters))
    else ((wordToken letters.reverse :: (start c).1), (start c).2)
  | number chars, c =>
    if isNumberChar c then ([], number (c :: chars))
    else ((numberToken chars.reverse :: (start c).1), (start c).2)
  | quote pieces, c =>
    if c = '"' then ([textToken pieces.reverse], between)
    else if c = '\\' then ([], escape pieces)
    else if c.toNat < 32 then ([.fault], stopped)
    else ([], quote (.char c :: pieces))
  | escape pieces, c =>
    if c = 'u' then ([], hex pieces 0 0)
    else match escapeChar? c with
      | some d => ([], quote (.char d :: pieces))
      | none => ([.fault], stopped)
  | hex pieces count value, c =>
    match hexValue? c with
    | some d =>
      if count = 3 then ([], quote (.code (value * 16 + d) :: pieces))
      else ([], hex pieces (count + 1) (value * 16 + d))
    | none => ([.fault], stopped)
  | stopped, _ => ([], stopped)

/-- The tokens completed by the end of the text. -/
def finish : Scanner → List Token
  | between => []
  | word letters => [wordToken letters.reverse]
  | number chars => [numberToken chars.reverse]
  | stopped => []
  | _ => [.fault]

/-- The tokens of the characters, from a state on. -/
def scan : Scanner → List Char → List Token
  | scanner, [] => finish scanner
  | scanner, c :: cs => (step scanner c).1 ++ scan (step scanner c).2 cs

end Scanner

/-- The tokens of a text. -/
def tokens (cs : List Char) : List Token := Scanner.scan .between cs

end Json
end StageRuns
