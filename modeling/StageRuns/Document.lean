/-
# Documents

A document is what a text in JSON or YAML says before anyone asks what it is
for. Beside the values of JSON it has values that only the use decides: a
plain scalar of YAML may be a text, a number, a truth value or nothing, and so
may a literal block with the tag of one; a list of YAML cannot stand for a
record as one of JSON can, and a key of YAML may be any value. It also has room
for what went wrong. A value that is written correctly but has no meaning is
`unreadable`, which matters only to those who read it; where the text stops
making sense the document is `broken`, with all that came before.

Key definitions: `Document`, `Document.name?`, `Document.untagged`,
`Document.scalar?`, `Document.settled?`, `Document.ofJson`, `Document.entries`.
-/
import StageRuns.Json.Basic
import StageRuns.Yaml.Scalar

namespace StageRuns

/-- What a text says. -/
inductive Document where
  | null
  | bool (value : Bool)
  /-- A whole number within 64 bits, signed or unsigned. -/
  | int (value : Int)
  /-- Any other number, as it is written. -/
  | fraction (written : String)
  | text (value : String)
  /-- A text that is a block of lines as they stand. -/
  | literal (value : String)
  /-- A plain scalar, whose meaning depends on what is asked for. -/
  | plain (scalar : String)
  /-- A list, which may stand for a record. -/
  | array (items : List Document)
  /-- A list that is nothing else. -/
  | sequence (items : List Document)
  /-- Members in order, with documents for keys. -/
  | object (members : List (Document × Document))
  /-- A value with a tag that says its type. -/
  | tagged (tag : String) (value : Document)
  /-- A value that is written correctly and has no meaning. -/
  | unreadable
  /-- The place where the text stops making sense. -/
  | broken
deriving Repr, Inhabited

namespace Document

/-- The value without its tag. -/
def untagged : Document → Document
  | tagged _ value => value
  | d => d

/-- The text of a key. -/
def name? (key : Document) : Option String :=
  match key.untagged with
  | text s => some s
  | literal s => some s
  | plain s => some s
  | _ => none

/-- The scalar from which a value of the type of a tag can be read: a plain one,
or a literal block with that tag. -/
def scalar? (type : String) : Document → Option (List Char)
  | plain s => some s.toList
  | tagged _ (plain s) => some s.toList
  | tagged tag (literal s) => if tag = type then some s.toList else none
  | _ => none

/-- Is this the tag of a type of the document's own? -/
def isLocalTag (tag : String) : Bool := tag.toList.head? == some '!'

/-! ### Meaning without a question -/

/-- The document that says what a scalar stands for. There is no place for whole
numbers that do not fit into 64 bits, signed or unsigned. -/
def ofMeaning (scalar : String) : Yaml.Meaning → Option Document
  | .nothing => some null
  | .truth b => some (bool b)
  | .count n => if n < 0x10000000000000000 then some (int n) else none
  | .negative n => if -0x8000000000000000 ≤ n then some (int n) else none
  | .fraction => some (fraction scalar)
  | .text => some (text scalar)

/-- The document that says what a scalar with a tag stands for, in whatever style
it is written. -/
def ofTag (tag scalar : String) : Option Document :=
  if isLocalTag tag then none
  else ((Yaml.meaningByTag tag scalar.toList).bind (ofMeaning scalar))

mutual

/-- What the document says if no one asks for a type: a plain scalar says what it
stands for, and a tag decides what another scalar does. Types of the document's
own mean nothing. -/
def settled? : Document → Option Document
  | plain s => ofMeaning s (Yaml.meaning s.toList)
  | literal s => some (text s)
  | array items => (settledItems? items).map array
  | sequence items => (settledItems? items).map sequence
  | object members => (settledMembers? members).map object
  | tagged tag (plain s) => ofTag tag s
  | tagged tag (text s) => ofTag tag s
  | tagged tag (literal s) => ofTag tag s
  | tagged tag value => if isLocalTag tag then none else settled? value
  | unreadable => none
  | broken => none
  | d => some d

/-- What the items say. -/
def settledItems? : List Document → Option (List Document)
  | [] => some []
  | item :: items => do
    let item ← settled? item
    return item :: (← settledItems? items)

/-- What the members say. -/
def settledMembers? : List (Document × Document) → Option (List (Document × Document))
  | [] => some []
  | (key, value) :: members => do
    let key ← settled? key
    let value ← settled? value
    return (key, value) :: (← settledMembers? members)

end

mutual

/-- The document that says a JSON value. -/
def ofJson : Json → Document
  | .null => null
  | .bool b => bool b
  | .int n => int n
  | .text s => text s
  | .array items => array (ofItems items)
  | .object members => object (ofMembers members)

/-- The documents that say the items. -/
def ofItems : List Json → List Document
  | [] => []
  | item :: items => ofJson item :: ofItems items

/-- The members of the document that says the members. -/
def ofMembers : List (String × Json) → List (Document × Document)
  | [] => []
  | (key, value) :: members => (text key, ofJson value) :: ofMembers members

end

/-- The members of an object whose keys have a text. -/
def entries : Document → List (String × Document)
  | object members => members.filterMap fun m => m.1.name?.map fun name => (name, m.2)
  | _ => []

/-- The value of the first member of this name. -/
def member? (name : String) (d : Document) : Option Document := d.entries.lookup name

end Document
end StageRuns
