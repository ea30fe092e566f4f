/-
# Reading records

A record is written as an object of named parts, or as a list of the parts in
the order of their declaration. An object may have members of other names,
which are ignored, and no part twice; the last parts of a list may be left out
if they have a default. Parts are read in the order in which they are
declared, but of several faults the one that comes first in the document
counts; a part that is missing is noticed at the end.

Key definitions: `Located`, `Record`, `Record.required`, `Record.withDefault`,
`Record.optional`, `Decode.record`.
-/
import StageRuns.Codec.Decoder

namespace StageRuns

/-- A value, or a fault and its place among the members. -/
inductive Located (α : Type) where
  | ok (value : α)
  | fault (place : Nat) (fault : Fault)
deriving Repr

namespace Located

/-- The outcome for values that a function makes of the value. -/
def map {α β : Type} (f : α → β) : Located α → Located β
  | ok a => ok (f a)
  | fault p e => fault p e

/-- The outcome of two parts; of two faults the first in place counts. -/
def apply {α β : Type} : Located (α → β) → Located α → Located β
  | ok f, ok a => ok (f a)
  | ok _, fault p e => fault p e
  | fault p e, ok _ => fault p e
  | fault p e, fault q d => if q < p then fault q d else fault p e

instance : Functor Located where
  map := map

instance : Seq Located where
  seq f a := f.apply (a ())

/-- The outcome without its place. -/
def toExcept {α : Type} : Located α → Except Fault α
  | ok a => .ok a
  | fault _ e => .error e

/-- The outcome of reading what stands at a place. -/
def ofExcept {α : Type} (place : Nat) : Except Fault α → Located α
  | .ok a => ok a
  | .error e => fault place e

end Located

/-- The parts of a record as they stand in a document. -/
structure Record where
  /-- The parts that are there, with their places. -/
  parts : List (String × Nat × Document)
  /-- The number of members or items. -/
  size : Nat
  /-- Is the record written as a list? -/
  isList : Bool
  /-- The place of the first key that cannot be read or is there twice, or of the
  first item too many. -/
  misplaced : Option Nat
deriving Repr

namespace Record

/-- The parts of an object from a place on, and the first place where a key
cannot be read or is there twice. -/
def collect (names seen : List String) (place : Nat) :
    List (Document × Document) → List (String × Nat × Document) × Option Nat
  | [] => ([], none)
  | (key, value) :: rest =>
    match key.name? with
    | none => ((collect names seen (place + 1) rest).1, some place)
    | some name =>
      if names.contains name then
        if seen.contains name then ((collect names seen (place + 1) rest).1, some place)
        else
          let (parts, misplaced) := collect names (name :: seen) (place + 1) rest
          ((name, place, value) :: parts, misplaced)
      else collect names seen (place + 1) rest

/-- The parts of a list, by position. -/
def number (place : Nat) : List String → List Document → List (String × Nat × Document)
  | name :: names, value :: values => (name, place, value) :: number (place + 1) names values
  | _, _ => []

/-- The record of declared parts that a document is, if it is one. -/
def ofDocument? (names : List String) (d : Document) : Option Record :=
  match d.untagged with
  | .object ms =>
    let (parts, misplaced) := collect names [] 0 ms
    some ⟨parts, ms.length, false, misplaced⟩
  | .array items =>
    some ⟨number 0 names items, items.length, true,
      if names.length < items.length then some names.length else none⟩
  | .plain s => if s.isEmpty then some ⟨[], 0, false, none⟩ else none
  | _ => none

/-- The part of a name, or else the outcome for a missing one. -/
def part {α : Type} (r : Record) (name : String) (decode : Decoder α) (missing : Located α) :
    Located α :=
  match r.parts.find? fun p => p.1 == name with
  | some (_, place, value) => .ofExcept place (decode value)
  | none => missing

/-- A part that must be there. -/
def required {α : Type} (r : Record) (name : String) (decode : Decoder α) : Located α :=
  r.part name decode (.fault r.size .malformed)

/-- A part with a default. -/
def withDefault {α : Type} (r : Record) (name : String) (decode : Decoder α) (default : α) :
    Located α :=
  r.part name decode (.ok default)

/-- A part that may be nothing. -/
def optional {α : Type} (r : Record) (name : String) (decode : Decoder α) : Located (Option α) :=
  r.withDefault name (Decode.optional decode) none

/-- A part that may be nothing, and is left out of objects only. -/
def nullable {α : Type} (r : Record) (name : String) (decode : Decoder α) : Located (Option α) :=
  r.part name (Decode.optional decode) (if r.isList then .fault r.size .malformed else .ok none)

/-- The outcome of the places of the parts. -/
def placed (r : Record) : Located Unit :=
  match r.misplaced with
  | some place => .fault place .malformed
  | none => .ok ()

end Record

/-- A record of declared parts. -/
def Decode.record {α : Type} (names : List String) (build : Record → Located α) : Decoder α :=
  fun d =>
    match Record.ofDocument? names d with
    | some r => ((build r).map (fun a _ => a)).apply r.placed |>.toExcept
    | none => .error .malformed

end StageRuns
