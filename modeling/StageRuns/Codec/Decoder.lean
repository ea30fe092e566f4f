/-
# Reading values from documents

A decoder takes a document to a value or a fault. A plain scalar of YAML is
read as whatever the decoder asks for; all other values must be of the kind
that is asked for. Tags count only where a value may be missing or is one of a
few. A fault is either that the document does not have the form,
or a failure of the library's own, which arises when a form is right and its
content is refused.

Key definitions: `Fault`, `Decoder`, `Decode.text`, `Decode.int`,
`Decode.list`, `Decode.optional`, `Decode.oneOf`, `Decode.fromText`.
-/
import StageRuns.Failure
import StageRuns.Json.Reader
import StageRuns.Yaml.Scalar

namespace StageRuns

/-- Why a document is not a value. -/
inductive Fault where
  /-- It does not have the form. -/
  | malformed
  /-- It has the form, and its content is refused. -/
  | refused (cause : Failure)
deriving Repr, DecidableEq

/-- A way to read values of a type from documents. -/
abbrev Decoder (α : Type) := Document → Except Fault α

namespace Decode

/-- A value that must be there. -/
def orMalformed {α : Type} : Option α → Except Fault α
  | some a => .ok a
  | none => .error .malformed

/-- A text. -/
def text (d : Document) : Except Fault String := orMalformed d.name?

/-- A truth value. -/
def bool (d : Document) : Except Fault Bool :=
  match d with
  | .bool b => .ok b
  | d => orMalformed (d.scalar? Yaml.boolTag >>= Yaml.bool?)

/-- The number, if it is in bounds. -/
def within (least most : Int) (n : Int) : Except Fault Int :=
  if least ≤ n ∧ n ≤ most then .ok n else .error .malformed

/-- A number of 64 bits with sign. -/
def int (d : Document) : Except Fault Int :=
  match d with
  | .int n => within (-0x8000000000000000) 0x7fffffffffffffff n
  | d => orMalformed (d.scalar? Yaml.intTag >>= Yaml.int?) >>=
      within (-0x8000000000000000) 0x7fffffffffffffff

/-- A number without sign that is not beyond `most`. -/
def natUpTo (most : Nat) (d : Document) : Except Fault Nat :=
  match d with
  | .int n => (within 0 most n).map Int.toNat
  | d => (orMalformed (d.scalar? Yaml.intTag >>= Yaml.nat?) >>= within 0 most).map Int.toNat

/-- A count of 32 bits. -/
def count : Decoder Nat := natUpTo 0xffffffff

/-- A count of 64 bits. -/
def size : Decoder Nat := natUpTo 0xffffffffffffffff

/-- A value, or none where nothing is written. A scalar with the tag of nothing
must be a word for it, and one with another tag is a value. -/
def optional {α : Type} (decode : Decoder α) : Decoder (Option α)
  | .null => .ok none
  | .plain s => if Yaml.isNull s.toList then .ok none else (decode (.plain s)).map some
  | .tagged tag (.plain s) =>
    if tag = Yaml.nullTag then
      if Yaml.isNull s.toList && !s.isEmpty then .ok none else .error .malformed
    else (decode (.tagged tag (.plain s))).map some
  | d => (decode d).map some

/-- The items of a list; the first fault decides. -/
def list {α : Type} (decode : Decoder α) (d : Document) : Except Fault (List α) :=
  match d.untagged with
  | .array items => items.mapM decode
  | .sequence items => items.mapM decode
  | .plain s => if s.isEmpty then .ok [] else .error .malformed
  | _ => .error .malformed

/-- The name of one of a few values: as a text; in JSON also as an object of the
name alone, with null for a value; in YAML also as a tag on nothing. -/
def choice : Document → Except Fault String
  | .object [(.text name, .null)] => .ok name
  | .tagged tag value =>
    if Document.isLocalTag tag then
      match value with
      | .plain s => if Yaml.isNull s.toList then .ok (tag.drop 1).toString else .error .malformed
      | _ => .error .malformed
    else text value
  | d => text d

/-- A value of a few, by its written name. -/
def oneOf {α : Type} (name : α → String) (all : List α) (d : Document) : Except Fault α := do
  let s ← choice d
  orMalformed (all.find? fun a => name a == s)

/-- The members of an object whose keys are of no interest beforehand. -/
def members {α : Type} (decode : Decoder α) (d : Document) : Except Fault (List (String × α)) :=
  match d.untagged with
  | .object ms => ms.mapM fun m => do
    let key ← text m.1
    let value ← decode m.2
    return (key, value)
  | .plain s => if s.isEmpty then .ok [] else .error .malformed
  | _ => .error .malformed

/-- A value whose content the library may refuse. -/
def checked {α β : Type} (decode : Decoder α) (check : α → Except Failure β) : Decoder β :=
  fun d => do
    let a ← decode d
    match check a with
    | .ok b => .ok b
    | .error cause => .error (.refused cause)

/-- The value of a whole reading. -/
def whole {α : Type} (decode : Decoder α) (reading : Json.Reading) : Except Fault α := do
  let a ← decode reading.document
  if reading.isWhole then .ok a else .error .malformed

/-- The value that a text in JSON writes. -/
def fromText {α : Type} (decode : Decoder α) (s : String) : Except Fault α :=
  whole decode (Json.read s)

end Decode
end StageRuns
