/-
# Identities

Pipelines, stages, jobs and state transitions get a number when they are
saved; until then they carry -1. Each kind of record has an identity type of
its own. Agents are identified by an opaque text.

Key definitions: `Id`, `Id.unsaved`, `Id.isSaved`, `Id.ofText`, `AgentId`.
-/
import StageRuns.Text.Blank
import StageRuns.Text.Digit

namespace StageRuns

/-- The kinds of records that are numbered. -/
inductive Entity where
  | pipeline
  | stage
  | job
  | transition
deriving Repr, DecidableEq

/-- The number of a record of one kind. -/
structure Id (entity : Entity) where
  value : Int
deriving Repr, DecidableEq

abbrev PipelineId := Id .pipeline

abbrev StageId := Id .stage

abbrev JobId := Id .job

abbrev TransitionId := Id .transition

/-- The identity of an agent. -/
structure AgentId where
  uuid : String
deriving Repr, DecidableEq

/-- Why a text is not a number of 64 bits with sign. -/
inductive NumberFault where
  | empty
  | invalidDigit
  | tooLarge
  | tooSmall
deriving Repr, DecidableEq

/-- The wording of a fault. -/
def NumberFault.message : NumberFault → String
  | empty => "cannot parse integer from empty string"
  | invalidDigit => "invalid digit found in string"
  | tooLarge => "number too large to fit in target type"
  | tooSmall => "number too small to fit in target type"

namespace Id

variable {entity : Entity}

/-- The identity of a record that is not saved yet. -/
def unsaved : Id entity := ⟨-1⟩

instance : Inhabited (Id entity) := ⟨unsaved⟩

/-- Was the record saved? -/
def isSaved (id : Id entity) : Bool := id.value != -1

/-- The number that the digits write after `start`. Faults are met from left to
right: a character that is no digit, or the digit that goes beyond `most`. -/
def readBounded (most : Nat) (beyond : NumberFault) (start : Nat) :
    List Char → Except NumberFault Nat
  | [] => .ok start
  | c :: cs =>
    if c.isDigit then
      let n := start * 10 + (c.toNat - 48)
      if n ≤ most then readBounded most beyond n cs else .error beyond
    else .error .invalidDigit

/-- The number that characters write: a sign at will and at least one digit. -/
def readSigned : List Char → Except NumberFault Int
  | [] => .error .empty
  | ['+'] => .error .invalidDigit
  | ['-'] => .error .invalidDigit
  | '+' :: cs => (readBounded 0x7fffffffffffffff .tooLarge 0 cs).map fun n => (n : Int)
  | '-' :: cs => (readBounded 0x8000000000000000 .tooSmall 0 cs).map fun n => -(n : Int)
  | cs => (readBounded 0x7fffffffffffffff .tooLarge 0 cs).map fun n => (n : Int)

/-- The identity that a text writes, blanks around it apart. -/
def ofText (s : String) : Except NumberFault (Id entity) :=
  (readSigned (Text.trimChars s.toList)).map Id.mk

/-- The text of an identity. -/
def toText (id : Id entity) : String := String.ofList (Text.digitsOfInt id.value)

end Id
end StageRuns
