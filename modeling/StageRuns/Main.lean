/-
# The program

Reads the files that the command may need and the clock, runs the command on
them and passes on its outcome.
-/
import StageRuns.Cli.Command
import Std.Time.DateTime.Timestamp

namespace StageRuns
namespace Program

/-- The text of a file, if it can be read. -/
def textOfFile (path : String) : IO (Option String) := do
  try
    return some (← IO.FS.readFile path)
  catch _ =>
    return none

/-- The files of these paths. -/
def textsOfFiles : List String → IO (List (String × Option String))
  | [] => return []
  | path :: paths => do
    let text ← textOfFile path
    return (path, text) :: (← textsOfFiles paths)

/-- The names of the variables that are settings. -/
def settingNames : List String :=
  ["CADENCE_DEFAULT_USER", "CADENCE_OUTPUT_FORMAT", "CADENCE_LOG_FILTER", "CADENCE_LOG_JSON"]

/-- The variables of the environment that are settings. -/
def settingVariables : List String → IO (List (String × String))
  | [] => return []
  | name :: names => do
    let rest ← settingVariables names
    match ← IO.getEnv name with
    | some value => return (name, value) :: rest
    | none => return rest

end Program
end StageRuns

open StageRuns Program in
/-- Carries out the command of the arguments. -/
def main (args : List String) : IO UInt32 := do
  let files ← textsOfFiles (Cli.filesOf args)
  let environment ← settingVariables settingNames
  let time ← Std.Time.Timestamp.now
  let now : Instant := ⟨time.val.second.val, time.val.nano.val.toNat⟩
  let outcome := Cli.run ⟨fun path => (files.lookup path).join, environment, now⟩ args
  IO.print outcome.printed
  IO.eprint outcome.said
  return UInt32.ofNat outcome.exit
