/-
# Reading YAML

A document is read from its tokens by the grammar of the language. A value is a
scalar, a list or an object, perhaps with an anchor and a tag in front, or the
use of an anchor; where a value may stand and none does, there is an empty
scalar. The items of a list that is the key or value of an object may stand
right below it, so that no token says where that list begins or ends. A text
has one document.

An anchor has a number: the count of the names before it. Only the last anchor
of a number counts, also for uses before it. Numbers differ as long as names
do; after a name was given twice, the next new name has the number of the
second. So a use may come before the value, or within it, and a document is
read again with the values of the reading before until they reach far enough.

What is used may have uses in turn, so that a short text can say very much. Too
many uses for the size of the text make it unreadable. Only those count that
someone meets who reads the parts of records and no other members of objects.

Key definitions: `Yaml.Naming`, `Yaml.uses?`, `Yaml.Reach`, `Yaml.Uses`,
`Yaml.Source`, `Yaml.Parser`, `Yaml.Parser.node`, `Yaml.Parser.document`,
`Yaml.read?`.
-/
import StageRuns.Document
import StageRuns.Yaml.Token

namespace StageRuns
namespace Yaml

/-! ### Anchors -/

/-- What tokens have named. -/
structure Naming where
  /-- The names with the numbers of their last anchors. -/
  numbers : List (String × Nat) := []
  /-- The numbers with their anchors by position, the latest first. -/
  holders : List (Nat × Nat) := []
  /-- The numbers of the anchors that are used, the latest first. -/
  used : List Nat := []
deriving Repr

namespace Naming

/-- What is named after one more token, unless it uses a name that no anchor
has. -/
def add (n : Naming) : Token → Option Naming
  | .anchor name =>
    let number := n.numbers.length
    some { n with numbers := (name, number) :: n.numbers.filter (·.1 != name)
                  holders := (number, n.holders.length) :: n.holders }
  | .alias name => (n.numbers.lookup name).map fun number => { n with used := number :: n.used }
  | _ => some n

/-- The positions of the anchors that are used, in the order of their uses. -/
def uses (n : Naming) : List Nat :=
  n.used.reverse.filterMap fun number => n.holders.lookup number

end Naming

/-- The positions of the anchors that tokens use, in the order of their uses. -/
def uses? (tokens : List Token) : Option (List Nat) := (tokens.foldlM Naming.add {}).map Naming.uses

/-! ### Uses -/

/-- The members of objects that are read. -/
structure Reach where
  /-- The names of those that are read. -/
  parts : List String
  /-- The names of those in whose values all members are read. -/
  whole : List String
deriving Repr, DecidableEq

/-- The number of uses that a reader meets, also within what is used. -/
structure Uses where
  /-- Those that are met by reading the members that are read. -/
  inParts : Nat := 0
  /-- Those that are met by reading all members. -/
  inAll : Nat := 0
deriving Repr, DecidableEq

namespace Uses

/-- The uses after one more, of a value with uses within it. -/
def next (u within : Uses) : Uses := ⟨u.inParts + within.inParts + 1, u.inAll + within.inAll + 1⟩

/-- The uses since others. -/
def since (u before : Uses) : Uses := ⟨u.inParts - before.inParts, u.inAll - before.inAll⟩

/-- The uses after the value of a member, of which `before` were there before it.
A member of no name is not read. -/
def pastMember (u before : Uses) (reach : Reach) (name : Option String) : Uses :=
  if name.any reach.whole.contains then ⟨before.inParts + (u.since before).inAll, u.inAll⟩
  else if name.any reach.parts.contains then u
  else ⟨before.inParts, u.inAll⟩

/-- The most uses for each value that is written. -/
def most : Nat := 100

end Uses

/-- A value that has an anchor, with the uses within it. -/
structure Anchored where
  value : Document
  uses : Uses
deriving Repr

/-- What is left of the tokens, and what has been read. -/
structure Source where
  tokens : List Token
  /-- The positions of the anchors whose uses are left. -/
  uses : List Nat
  reach : Reach
  /-- The values of all anchors in the reading before. -/
  known : List (Option Anchored)
  /-- The values of the anchors in their order, if they are read to their ends. -/
  anchors : List (Option Anchored) := []
  /-- Has a value been used before it was read to its end? -/
  hasEarlyUse : Bool := false
  /-- The uses so far. -/
  met : Uses := {}
  /-- The number of values that are written so far, with lists and objects counted
  twice. -/
  size : Nat := 0
  handles : List (String × String) := []
deriving Repr

/-- A way to read something from tokens. -/
abbrev Parser := StateT Source Option

/-- Where a value stands. -/
inductive Spot where
  /-- It is the document or the item of a list in block style. -/
  | alone
  /-- It is a key or value of an object in block style. -/
  | member
  /-- It stands inside brackets. -/
  | bracketed
deriving Repr, DecidableEq

/-- What stands in front of a value. -/
structure Properties where
  anchor : Option String
  tag : Option String
deriving Repr, DecidableEq

namespace Parser

/-! ### Tokens -/

/-- The next token. -/
def peek : Parser (Option Token) := do return (← get).tokens.head?

/-- Past the next token. -/
def advance : Parser Unit := modify fun s => { s with tokens := s.tokens.tail }

/-- Is the next token one of these? -/
def isNext (ts : List Token) : Parser Bool := do return (← peek).any ts.contains

/-- Past the token, if it is the next one; was it? -/
def skip (t : Token) : Parser Bool := do
  if ← isNext [t] then
    advance
    return true
  else return false

/-- Past the token, which must be the next one. -/
def expect (t : Token) : Parser Unit := do
  if ← skip t then return else failure

/-! ### Properties -/

/-- The anchor that stands here. -/
def anchor : Parser (Option String) := do
  match ← peek with
  | some (.anchor name) =>
    advance
    return some name
  | _ => return none

/-- The full name of the tag that stands here. -/
def tag : Parser (Option String) := do
  match ← peek with
  | some (.tag tag) =>
    advance
    let name ← resolveTag? (← get).handles tag
    return some name
  | _ => return none

/-- An anchor and a tag in any order, either at will. -/
def properties : Parser Properties := do
  match ← anchor with
  | some name => return ⟨some name, ← tag⟩
  | none =>
    let name ← tag
    return ⟨← anchor, name⟩

/-! ### Simple values -/

/-- The value, as a number of written ones. -/
def written (count : Nat) (d : Document) : Parser Document := do
  modify fun s => { s with size := s.size + count }
  return d

/-- A scalar that is a token. -/
def scalar (d : Document) : Parser Document := do
  advance
  written 1 d

/-- An empty scalar. -/
def emptyScalar : Parser Document := written 1 (.plain "")

/-- The deepest nesting of a list or object that can be read. -/
def maxDepth : Nat := 127

/-- A list or object inside a number of others. -/
def nested (depth : Nat) (d : Document) : Parser Document :=
  written 2 (if depth ≤ maxDepth then d else .unreadable)

/-! ### Uses -/

/-- The anchor at a position, in the reading before if its value is not read to its
end yet. -/
def anchored (position : Nat) : Parser Anchored := do
  match (← get).anchors[position]?.join with
  | some a => return a
  | none =>
    modify fun s => { s with hasEarlyUse := true }
    return ((← get).known[position]?.join).getD ⟨.unreadable, {}⟩

/-- The value of the anchor that is used here. -/
def used : Parser Document := do
  match (← get).uses with
  | [] => failure
  | position :: uses =>
    modify fun s => { s with uses }
    let a ← anchored position
    modify fun s => { s with met := s.met.next a.uses }
    scalar a.value

/-- The value that is read here, for uses if it has an anchor. -/
def named (anchor : Option String) (value : Parser Document) : Parser Document := do
  match anchor with
  | none => value
  | some _ =>
    let s ← get
    let position := s.anchors.length
    modify fun s => { s with anchors := s.anchors ++ [none] }
    let d ← value
    modify fun t =>
      { t with anchors := t.anchors.set position (some ⟨d, t.met.since s.met⟩) }
    return d

/-- The value of the member of a key. -/
def valueOf (key : Document) (value : Parser Document) : Parser Document := do
  let before := (← get).met
  let d ← value
  modify fun s => { s with met := s.met.pastMember before s.reach key.name? }
  return d

/-- The value with its tag. -/
def withTag (tag : Option String) (d : Document) : Document :=
  match tag with
  | none => d
  | some name => .tagged name d

/-! ### Values -/

mutual

/-- A value inside a number of lists and objects. Each step takes up a token or
leads to one that does. -/
def node : Nat → Spot → Nat → Parser Document
  | 0, _, _ => failure
  | fuel + 1, spot, depth => do
    match ← peek with
    | some (.alias _) => used
    | _ =>
      let p ← properties
      named p.anchor do
        return withTag p.tag (← content fuel spot depth (p.anchor.isSome || p.tag.isSome))

/-- A value without its properties. It may be missing where there are some. -/
def content : Nat → Spot → Nat → Bool → Parser Document
  | 0, _, _, _ => failure
  | fuel + 1, spot, depth, hasProperties => do
    match ← peek, spot with
    | some (.plain s), _ => scalar (.plain s)
    | some (.text s), _ => scalar (.text s)
    | some (.literal s), _ => scalar (.literal s)
    | some .openArray, _ =>
      advance
      nested depth (.sequence (← bracketItems fuel (depth + 1) true))
    | some .openObject, _ =>
      advance
      nested depth (.object (← bracketMembers fuel (depth + 1) true))
    | some .dash, .member => nested depth (.sequence (← looseItems fuel (depth + 1)))
    | some .openItems, .alone => blockList fuel depth
    | some .openItems, .member => blockList fuel depth
    | some .openMembers, .alone => blockObject fuel depth
    | some .openMembers, .member => blockObject fuel depth
    | _, _ => if hasProperties then emptyScalar else failure

/-- A list in block style. -/
def blockList : Nat → Nat → Parser Document
  | 0, _ => failure
  | fuel + 1, depth => do
    advance
    nested depth (.sequence (← blockItems fuel (depth + 1)))

/-- An object in block style. -/
def blockObject : Nat → Nat → Parser Document
  | 0, _ => failure
  | fuel + 1, depth => do
    advance
    nested depth (.object (← blockMembers fuel (depth + 1)))

/-- A value, or an empty scalar before one of the tokens. -/
def nodeBefore : Nat → List Token → Spot → Nat → Parser Document
  | 0, _, _, _ => failure
  | fuel + 1, ends, spot, depth => do
    if ← isNext ends then emptyScalar else node fuel spot depth

/-- The items of a list in block style, and its end. -/
def blockItems : Nat → Nat → Parser (List Document)
  | 0, _ => failure
  | fuel + 1, depth => do
    if ← skip .closeBlock then return []
    else
      expect .dash
      let item ← nodeBefore fuel [.dash, .closeBlock] .alone depth
      return item :: (← blockItems fuel depth)

/-- The items of a list right below a key. -/
def looseItems : Nat → Nat → Parser (List Document)
  | 0, _ => failure
  | fuel + 1, depth => do
    if ← skip .dash then
      let item ← nodeBefore fuel [.dash, .key, .value, .closeBlock] .alone depth
      return item :: (← looseItems fuel depth)
    else return []

/-- What follows a key: a colon and a value, either of which may be missing before
one of the tokens. -/
def valueAfter : Nat → List Token → Spot → Nat → Parser Document
  | 0, _, _, _ => failure
  | fuel + 1, ends, spot, depth => do
    if ← skip .value then nodeBefore fuel ends spot depth else emptyScalar

/-- The members of an object in block style, and its end. -/
def blockMembers : Nat → Nat → Parser (List (Document × Document))
  | 0, _ => failure
  | fuel + 1, depth => do
    if ← skip .closeBlock then return []
    else
      expect .key
      let key ← nodeBefore fuel [.key, .value, .closeBlock] .member depth
      let value ← valueOf key (valueAfter fuel [.key, .closeBlock] .member depth)
      return (key, value) :: (← blockMembers fuel depth)

/-- The items of a list in brackets, and the closing bracket. An item with a colon
is an object of one member. -/
def bracketItems : Nat → Nat → Bool → Parser (List Document)
  | 0, _, _ => failure
  | fuel + 1, depth, isFirst => do
    if ← skip .closeArray then return []
    else
      if !isFirst then expect .comma
      if ← skip .closeArray then return []
      else
        let item ←
          if ← skip .key then singleMember fuel depth else node fuel .bracketed depth
        return item :: (← bracketItems fuel depth false)

/-- An object of one member, without braces. A token in place of its key is passed
over. -/
def singleMember : Nat → Nat → Parser Document
  | 0, _ => failure
  | fuel + 1, depth => do
    let key ←
      if ← isNext [.value, .comma, .closeArray] then
        advance
        emptyScalar
      else node fuel .bracketed (depth + 1)
    let value ← valueOf key (valueAfter fuel [.comma, .closeArray] .bracketed (depth + 1))
    nested depth (.object [(key, value)])

/-- The members of an object in braces, and the closing brace. A value without a
colon is a key. -/
def bracketMembers : Nat → Nat → Bool → Parser (List (Document × Document))
  | 0, _, _ => failure
  | fuel + 1, depth, isFirst => do
    if ← skip .closeObject then return []
    else
      if !isFirst then expect .comma
      if ← skip .closeObject then return []
      else
        let member ← do
          if ← skip .key then
            let key ← nodeBefore fuel [.value, .comma, .closeObject] .bracketed depth
            let value ← valueOf key (valueAfter fuel [.comma, .closeObject] .bracketed depth)
            pure (key, value)
          else
            let key ← node fuel .bracketed depth
            pure (key, ← emptyScalar)
        return member :: (← bracketMembers fuel depth false)

end

/-! ### Documents -/

/-- The directives in front of a document, of which no two say the same. -/
def directives : Nat → Bool → Parser Bool
  | 0, _ => failure
  | fuel + 1, hasVersion => do
    match ← peek with
    | some (.directive .version) =>
      if hasVersion then failure
      else
        advance
        let _ ← directives fuel true
        return true
    | some (.directive (.handle name start)) =>
      if ((← get).handles.lookup name).isSome then failure
      else
        advance
        modify fun s => { s with handles := (name, start) :: s.handles }
        let _ ← directives fuel hasVersion
        return true
    | _ => return false

/-- Past the marks of the document's end; nothing may follow. -/
def ends : Nat → Parser Unit
  | 0 => failure
  | fuel + 1 => do
    if ← skip .stop then ends fuel
    else if (← peek).isSome then failure
    else return

/-- The one document of a text. It may be missing, and after a mark it may be
empty. -/
def document (fuel : Nat) : Parser Document := do
  let hasDirectives ← directives fuel false
  let isMarked ← skip .start
  if hasDirectives && !isMarked then failure
  let isEmpty := (← peek).isNone || (isMarked && (← isNext [.stop]))
  let d ← if isEmpty then emptyScalar else node fuel .alone 0
  ends fuel
  let s ← get
  return if s.met.inParts ≤ Uses.most * s.size then d else .unreadable

end Parser

/-- The document that tokens write, read a number of times more if values are used
before they are read. -/
def readWith (reach : Reach) (tokens : List Token) (uses : List Nat) :
    Nat → List (Option Anchored) → Option Document
  | again, known => do
    let (d, s) ← (Parser.document (4 * tokens.length + 4)).run { tokens, uses, reach, known }
    match again with
    | 0 => return d
    | again + 1 => if s.hasEarlyUse then readWith reach tokens uses again s.anchors else return d

/-- The document that a text writes for those who read some members. -/
def read? (reach : Reach) (s : String) : Option Document := do
  let tokens ← tokens? s.toList
  let uses ← uses? tokens
  readWith reach tokens uses (uses.length + 16) []

end Yaml
end StageRuns
