/-
# Settings

Three layers say who approves a run if no one is named and in which format
results are written: built-in values, a file of settings in JSON, and
variables of the environment. A number is a text as well, a fraction with the
fewest digits that tell it apart, and whole numbers beyond 64 bits with a sign
are fractions. The settings of the log are checked and have no other effect.

Key definitions: `Cli.Settings`, `Cli.Settings.Fault`, `Cli.Settings.read`.
-/
import StageRuns.Cause
import StageRuns.Cli.Arguments
import StageRuns.Cli.Setting
import StageRuns.Json.Printer
import StageRuns.Json.Reader
import StageRuns.Text.Escaped
import StageRuns.Text.Shortest

namespace StageRuns
namespace Cli

/-- What holds if the command line does not say otherwise. -/
structure Settings where
  defaultUser : String := anonymousUser
  format : Format := .json
deriving Repr, DecidableEq

namespace Settings

/-- The name of the file of settings. -/
def fileName : String := programName ++ ".json"

/-- The name of an origin. -/
def originText : Origin → String
  | .file => fileName
  | .environment => "the environment"

/-- Why there are no settings. -/
inductive Fault where
  /-- The file is not in JSON. -/
  | malformed
  /-- The file does not hold an object. -/
  | notTable (found : String)
  /-- A setting has a value of the wrong kind. -/
  | unexpected (found expected key : String) (origin : Option Origin)
  /-- There is no format of this name. -/
  | unknownFormat (name : String)
  /-- The format is not given by its name. -/
  | unnamedFormat
deriving Repr, DecidableEq

/-- The wording of a fault. -/
def Fault.message : Fault → String
  | malformed => "Invalid settings in " ++ fileName
  | notTable found =>
    "invalid type: " ++ found ++ ", expected a map in " ++ fileName ++ " in " ++ fileName
  | unexpected found expected key origin =>
    "invalid type: " ++ found ++ ", expected " ++ expected ++ " for key `" ++ key ++ "`" ++
      match origin with
      | some origin => " in " ++ originText origin
      | none => ""
  | unknownFormat name => "enum OutputFormat does not have variant constructor " ++ name
  | unnamedFormat =>
    "value of enum OutputFormat should be represented by either string or table " ++
      "with exactly one key"

/-! ### Values -/

/-- The text of a whole number. -/
def intText (n : Int) : List Char :=
  if n ≤ 0x7fffffffffffffff then Text.digitsOfInt n
  else Text.textOfDouble (UInt64.ofNat n.toNat).toFloat

/-- The text of a number as it is written. -/
def fractionText (written : String) : List Char :=
  ((Json.doubleOf? written).map Text.textOfDouble).getD []

/-- A value as faults show it. -/
def describe : Document → String
  | .bool b => "boolean `" ++ String.ofList (Json.boolChars b) ++ "`"
  | .int n =>
    (if n ≤ 0x7fffffffffffffff then "64-bit integer `" else "floating point `") ++
      String.ofList (intText n) ++ "`"
  | .fraction written => "floating point `" ++ String.ofList (fractionText written) ++ "`"
  | .text s => "string " ++ Text.escaped s
  | .array _ => "sequence"
  | .object _ => "map"
  | _ => "unit value"

/-- The fault that the setting of a key has a value of the wrong kind. -/
def unexpected {α : Type} (expected key : String) : Setting → Except Fault α
  | .value v origin => .error (.unexpected (describe v) expected key origin)
  | .table _ => .error (.unexpected "map" expected key none)
  | .list => .error (.unexpected "sequence" expected key none)

/-- A setting as a text; numbers and truth values are texts too. -/
def textOf (key : String) (s : Setting) : Except Fault String :=
  match s with
  | .value (.text v) _ => .ok v
  | .value (.bool b) _ => .ok (String.ofList (Json.boolChars b))
  | .value (.int n) _ => .ok (String.ofList (intText n))
  | .value (.fraction written) _ => .ok (String.ofList (fractionText written))
  | s => unexpected "a string" key s

/-- A setting as a truth value; numbers and some words are truth values too. -/
def boolOf (key : String) (s : Setting) : Except Fault Bool :=
  match s with
  | .value (.bool b) _ => .ok b
  | .value (.int n) _ => .ok (n != 0)
  | .value (.fraction written) _ => .ok ((Json.doubleOf? written).any (· != 0))
  | .value (.text v) origin =>
    let word := Text.lower v
    if ["1", "true", "on", "yes"].contains word then .ok true
    else if ["0", "false", "off", "no"].contains word then .ok false
    else unexpected "a boolean" key (.value (.text word) origin)
  | s => unexpected "a boolean" key s

/-- The format of a name in any case. -/
def formatOfName (name : String) : Except Fault Format :=
  match Format.ofText? (Text.lower name) with
  | some f => .ok f
  | none => .error (.unknownFormat name)

/-- A setting as a format: its name, or a table with its name alone. -/
def formatOf (s : Setting) : Except Fault Format :=
  match s with
  | .value (.text name) _ => formatOfName name
  | .table [name] => formatOfName name
  | _ => .error .unnamedFormat

/-! ### The whole -/

/-- The members of the file of settings. -/
def members : Option String → Except Fault (List (String × Document))
  | none => .ok []
  | some content =>
    let reading := Json.read content
    if !reading.isWhole || reading.document.settled?.isNone then .error .malformed
    else match reading.document with
      | .object ms => .ok (Document.object ms).entries
      | d => .error (.notTable (describe d))

/-- The value of a setting, or what holds without it. -/
def valueOr {α : Type} (read : Setting → Except Fault α) (default : α) :
    Option Setting → Except Fault α
  | some s => read s
  | none => .ok default

/-- The settings from the content of the file, if there is one, and from the
environment. -/
def read (file : Option String) (environment : List (String × String)) :
    Except Fault Settings := do
  let setting := Setting.ofLayers (← members file) environment
  let text (key : String) := valueOr (textOf key) anonymousUser (setting key)
  let defaultUser ← text "default_user"
  let format ← valueOr formatOf .json (setting "output_format")
  let _ ← text "log_filter"
  let _ ← valueOr (boolOf "log_json") false (setting "log_json")
  return { defaultUser, format }

end Settings
end Cli
end StageRuns
