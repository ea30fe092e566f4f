/-
# Settings by layers

A layer gives values to settings by their keys, in any case. A key may go on
into the setting: a point and a name make it a table, a number in square
brackets makes it a list. An object adds its names to the table that a setting
is, and one without names leaves the setting as it is. Every other value takes
the place of what a lower layer gave. Tables that come about in this way are of
no single origin, and neither are lists, unless a layer gave the whole list
first.

Key definitions: `Cli.SettingKey`, `Cli.SettingKey.ofText`, `Cli.Setting`,
`Cli.Setting.merge`, `Cli.Setting.ofLayers`.
-/
import StageRuns.Document
import StageRuns.Text.Digit
import StageRuns.Text.LetterCase

namespace StageRuns
namespace Cli

/-- The name of the program. -/
def programName : String := "cadence"

/-! ### Keys -/

/-- A step into a setting. -/
inductive SettingStep where
  | name (name : String)
  | position
deriving Repr, DecidableEq

/-- The name of a setting, and the first step into it. -/
structure SettingKey where
  name : String
  step : Option SettingStep
deriving Repr, DecidableEq

namespace SettingKey

/-- May `c` be part of a name that has steps after it? -/
def isNameChar (c : Char) : Bool := c.isAlphanum || c = ' ' || c = '_' || c = '-'

/-- Is this a number of 64 bits, with a minus sign at will and blanks around
it? -/
def isPosition (cs : List Char) : Bool :=
  let isBlank (c : Char) : Bool := c = ' ' || c = '\t'
  match ((cs.dropWhile isBlank).reverse.dropWhile isBlank).reverse with
  | '-' :: digits => (Text.natOfDigits? digits).any (· ≤ 0x8000000000000000)
  | digits => (Text.natOfDigits? digits).any (· ≤ 0x7fffffffffffffff)

/-- The steps that the characters write. Each takes up a character, so that their
count is fuel enough. -/
def steps? : Nat → List Char → Option (List SettingStep)
  | _, [] => some []
  | fuel + 1, '.' :: cs =>
    let name := cs.takeWhile isNameChar
    if name.isEmpty then none
    else (steps? fuel (cs.drop name.length)).map (.name (Text.lower (String.ofList name)) :: ·)
  | fuel + 1, '[' :: cs =>
    match cs.dropWhile (· != ']') with
    | _ :: rest =>
      if isPosition (cs.takeWhile (· != ']')) then (steps? fuel rest).map (.position :: ·) else none
    | [] => none
  | _, _ => none

/-- The key that a text writes. A text that is no name with steps is a name as it
stands. -/
def ofText (s : String) : SettingKey :=
  let name := s.toList.takeWhile isNameChar
  let rest := s.toList.drop name.length
  match steps? rest.length rest with
  | some steps => if name.isEmpty then ⟨Text.lower s, none⟩
    else ⟨Text.lower (String.ofList name), steps.head?⟩
  | none => ⟨Text.lower s, none⟩

end SettingKey

/-! ### Layers -/

/-- Where a setting comes from. -/
inductive Origin where
  | file
  | environment
deriving Repr, DecidableEq

/-- What a setting holds. -/
inductive Setting where
  | value (value : Document) (origin : Origin)
  /-- Names that were put together. -/
  | table (names : List String)
  /-- Values that were put together. -/
  | list
deriving Repr

namespace Setting

/-- The names of a table with one more. -/
def addName (names : List String) (name : String) : List String :=
  if names.contains name then names else names ++ [name]

/-- The setting as a table with more names. -/
def addNames (setting : Option Setting) (more : List String) : Setting :=
  match setting with
  | some (table names) => table (more.foldl addName names)
  | _ => table (more.foldl addName [])

/-- The setting as a list. -/
def toList : Option Setting → Setting
  | some (value (.array items) origin) => value (.array items) origin
  | _ => list

/-- The setting after a layer has given it a value. -/
def merge (origin : Origin) (setting : Option Setting) (step : Option SettingStep)
    (given : Document) : Option Setting :=
  match step, given with
  | some (.name name), _ => some (addNames setting [name])
  | some .position, _ => some (toList setting)
  | none, .object [] => setting
  | none, .object members =>
    some (addNames setting (members.filterMap fun m => m.1.name?.map Text.lower))
  | none, given => some (value given origin)

/-- The setting of a name after all members of a layer. -/
def mergeAll (origin : Origin) (name : String) (setting : Option Setting)
    (members : List (String × Document)) : Option Setting :=
  members.foldl (fun setting member =>
    let key := SettingKey.ofText member.1
    if key.name = name then merge origin setting key.step member.2 else setting) setting

/-- The members without those that come again later under the same key. -/
def lastOfEach : List (String × Document) → List (String × Document)
  | [] => []
  | member :: members =>
    if members.any fun m => m.1 == member.1 then lastOfEach members
    else member :: lastOfEach members

/-- The variables of the environment that are settings: those whose names start
with the name of the program, in any case. -/
def ofEnvironment (environment : List (String × String)) : List (String × Document) :=
  let start := programName.toList ++ ['_']
  environment.filterMap fun v =>
    let name := (Text.lower v.1).toList
    if start.isPrefixOf name then
      some (String.ofList (name.drop start.length), .text v.2)
    else none

/-- The setting of a name, from a file and from the environment above it. -/
def ofLayers (file : List (String × Document)) (environment : List (String × String))
    (name : String) : Option Setting :=
  mergeAll .environment name (mergeAll .file name none (lastOfEach file))
    (ofEnvironment environment)

end Setting
end Cli
end StageRuns
