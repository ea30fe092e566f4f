/-
# Commands

A command is carried out on what it can see: the files, the environment and
the time. Its outcome is an exit code, what it prints, and what it says about
itself. Settings are read before the command, with a file of variables below
the environment, and documents in the order in which the command names them, so
that the first that cannot be used decides.
A file whose name ends in `.json` is read as JSON, any other as YAML.

Key definitions: `Cli.World`, `Cli.Outcome`, `Cli.Fault`, `Cli.Request.answer`,
`Cli.run`, `Cli.filesOf`.
-/
import StageRuns.Cli.Schema
import StageRuns.Cli.Settings
import StageRuns.Cli.VariableFile
import StageRuns.Codec.Agent
import StageRuns.Codec.Run
import StageRuns.Rerun.Stage
import StageRuns.Yaml.Printer
import StageRuns.Yaml.Reader

namespace StageRuns
namespace Cli

/-- What a command can see. -/
structure World where
  /-- The text of a file. -/
  file? : String → Option String
  environment : List (String × String)
  now : Instant

/-- What a command leaves behind. -/
structure Outcome where
  exit : Nat
  /-- The result. -/
  printed : String
  /-- What is said beside the result. -/
  said : String
deriving Repr, DecidableEq

/-- Why a command cannot be carried out. -/
inductive Fault where
  | unreadable (path : String)
  | malformed (path : String)
  | settings (fault : Settings.Fault)
  | refused (failure : Failure)
deriving Repr, DecidableEq

/-! ### Files -/

/-- The last part of a path that is not empty or a dot. -/
def baseName (path : String) : List Char :=
  ((slashParts path.toList).reverse.find? fun part => part != [] && part != ['.']).getD []

/-- The part of a file's name after its last dot, unless the name starts with
that dot. -/
def extension? (path : String) : Option (List Char) :=
  let name := (baseName path).reverse
  match name.dropWhile (· != '.') with
  | _ :: _ :: _ => some (name.takeWhile (· != '.')).reverse
  | _ => none

/-- Is the file read as JSON? -/
def isJsonPath (path : String) : Bool :=
  match extension? path with
  | some ending => Text.sameName (String.ofList ending) "json"
  | none => false

/-- The wording of a fault. -/
def Fault.message : Fault → String
  | unreadable path => "Failed to read " ++ path
  | malformed path => "Invalid " ++ (if isJsonPath path then "JSON" else "YAML") ++ " in " ++ path
  | settings fault => fault.message
  | refused failure => failure.message

/-- The members of objects that are read in files: the parts of records, and all
members of properties and origins. -/
def reach : Yaml.Reach where
  parts :=
    ["name", "materials", "stages", "variables", "label_template", "kind", "url", "jobs", "approval",
      "fetch_materials", "clean_working_dir", "resources", "artifacts", "run_on_all_agents",
      "run_instance_count", "elastic_profile_id", "timeout_minutes", "source", "destination",
      "value", "secure", "uuid", "hostname", "ip_address", "revisions", "approver", "material",
      "modifications", "changed", "revision", "user_name", "comment", "modified_time", "id",
      "approval_type", "approved_by", "counter", "rerun_of_counter", "config_version",
      "created_time", "latest_run", "state", "result", "agent_uuid", "transitions", "run_type",
      "scheduled_date", "plan", "state_change_time", "identifier", "pipeline_name", "stage_name",
      "job_name", "build_id", "artifact_plans", "elastic_profile", "cluster_profile",
      "cluster_profile_id", "plugin_id"]
  whole := ["origin", "properties"]

/-- The value that a file holds. -/
def World.read {α : Type} (w : World) (decode : Decoder α) (path : String) : Except Fault α :=
  match w.file? path with
  | none => .error (.unreadable path)
  | some content =>
    let value? :=
      if isJsonPath path then (Decode.fromText decode content).toOption
      else (Yaml.read? reach content).bind fun d => (decode d).toOption
    match value? with
    | some value => .ok value
    | none => .error (.malformed path)

/-- The value that a file holds, or what holds if none is named. -/
def World.readOr {α : Type} (w : World) (decode : Decoder α) (default : α) :
    Option String → Except Fault α
  | some path => w.read decode path
  | none => .ok default

/-! ### Results -/

/-- What a request gives: a result, and a line about it. -/
structure Answer where
  result : String
  summary : Option String
deriving Repr, DecidableEq

/-- A value in a format. -/
def Format.render (f : Format) (j : Json) : String :=
  match f with
  | json => j.indented
  | yaml => Yaml.render j

/-- What is said about a stage. -/
def stageSummary (stage : Stage) : String :=
  "Stage " ++ stage.name ++ " with " ++ toString stage.jobs.members.length ++ " jobs"

/-- What is said about a run. -/
def runSummary (run : Pipeline) : String :=
  "Pipeline " ++ run.name ++ " (" ++ run.cause.summary ++ ")"

/-- What is said about a rerun of an old stage. -/
def rerunSummary (old stage : Stage) : String :=
  "Rerun of " ++ stage.name ++ " (counter " ++ toString stage.counter ++ ", rerun of " ++
    toString (stage.rerunOfCounter.getD old.counter) ++ ")"

/-- A failure of the library as a fault of the command. -/
def refuse {α : Type} : Except Failure α → Except Fault α
  | .ok a => .ok a
  | .error failure => .error (.refused failure)

/-! ### Requests -/

/-- The first run of a pipeline, forced by who approves it if it has no other
cause. -/
def firstRun (s : Scheduling) (config : PipelineConfig) (cause : Option BuildCause)
    (now : Instant) : Except Failure Pipeline := do
  let cause ← match cause with
    | some cause => .ok cause
    | none => BuildCause.manualForced .empty (some s.approvedBy)
  let run ← s.run config cause config.fingerprint now
  return run.withCounter 1

namespace Request

/-- A pipeline run, or a stage of it if one is named. -/
def answerPlan (w : World) (format : Format) (defaultUser pipeline : String)
    (agents stage user cause : Option String) : Except Fault Answer := do
  let config ← w.read PipelineConfig.decode pipeline
  let agents ← w.readOr Agents.decode .empty agents
  let s : Scheduling := { approvedBy := user.getD defaultUser, agents }
  match stage with
  | some name =>
    let made ← refuse (s.instantiateNamed config name config.fingerprint w.now)
    return ⟨format.render made.toJson, some (stageSummary made)⟩
  | none =>
    let cause ← w.readOr (fun d => (BuildCause.decode d).map some) none cause
    let made ← refuse (firstRun s config cause w.now)
    return ⟨format.render made.toJson, some (runSummary made)⟩

/-- A rerun of jobs of a stage, under its own name if no other is given. -/
def answerRerun (w : World) (format : Format) (defaultUser stageFile pipeline : String)
    (jobs : List String) (agents stage user : Option String) : Except Fault Answer := do
  let old ← w.read Stage.decode stageFile
  let config ← w.read PipelineConfig.decode pipeline
  let agents ← w.readOr Agents.decode .empty agents
  let s : Scheduling := { approvedBy := user.getD defaultUser, agents }
  let made ← refuse
    (s.rerunNamed config old (stage.getD old.name) jobs config.fingerprint w.now)
  return ⟨format.render made.toJson, some (rerunSummary old made)⟩

/-- The answer to a request. -/
def answer (w : World) (format : Format) (defaultUser : String) : Request → Except Fault Answer
  | plan pipeline agents stage user cause =>
    answerPlan w format defaultUser pipeline agents stage user cause
  | rerun stageFile pipeline jobs agents stage user =>
    answerRerun w format defaultUser stageFile pipeline jobs agents stage user
  | fingerprint pipeline => do
    let config ← w.read PipelineConfig.decode pipeline
    return ⟨config.fingerprint, none⟩
  | schema => .ok ⟨Schema.render, none⟩

/-- The files that a request may read. -/
def files : Request → List String
  | plan pipeline agents _ _ cause => pipeline :: (agents.toList ++ cause.toList)
  | rerun stageFile pipeline _ agents _ _ => stageFile :: pipeline :: agents.toList
  | fingerprint pipeline => [pipeline]
  | schema => []

end Request

/-- The content of the file of settings. A file of the bare name, which has no
format, stands in its way. -/
def World.settingsFile (w : World) : Option String :=
  if (w.file? programName).isSome then none else w.file? Settings.fileName

/-- The environment with the variables of their file. -/
def World.fullEnvironment (w : World) : List (String × String) :=
  VariableFile.extend w.environment (w.file? VariableFile.fileName)

namespace Invocation

/-- The answer to an invocation, under the settings. -/
def answer (w : World) (i : Invocation) : Except Fault Answer := do
  let settings ← match Settings.read w.settingsFile w.fullEnvironment with
    | .ok settings => .ok settings
    | .error fault => .error (.settings fault)
  i.request.answer w (i.format.getD settings.format) settings.defaultUser

end Invocation

/-! ### Outcomes -/

/-- How the program is called. -/
def usage : String :=
  "Usage: " ++ programName ++ " [--format json|yaml] plan [PIPELINE] [--agents FILE]" ++
    " [--stage NAME] [--user NAME] [--cause FILE]\n" ++
  "       " ++ programName ++ " [--format json|yaml] rerun STAGE_FILE PIPELINE --job NAME..." ++
    " [--stage NAME] [--agents FILE] [--user NAME]\n" ++
  "       " ++ programName ++ " fingerprint [PIPELINE]\n" ++
  "       " ++ programName ++ " schema\n"

/-- The version of the program. -/
def version : String := "0.1.0"

/-- The outcome of the arguments. -/
def run (w : World) (args : List String) : Outcome :=
  match Invocation.parse args with
  | .error .help => ⟨0, usage, ""⟩
  | .error .version => ⟨0, programName ++ " " ++ version ++ "\n", ""⟩
  | .error .misuse => ⟨2, "", usage⟩
  | .ok invocation =>
    match invocation.answer w with
    | .ok ⟨result, some summary⟩ => ⟨0, result ++ "\n", "✓ " ++ summary ++ "\n"⟩
    | .ok ⟨result, none⟩ => ⟨0, result ++ "\n", ""⟩
    | .error fault => ⟨1, "", "Error: " ++ fault.message ++ "\n"⟩

/-- The files that the arguments may make the program read. -/
def filesOf (args : List String) : List String :=
  match Invocation.parse args with
  | .ok invocation =>
    VariableFile.fileName :: programName :: Settings.fileName :: invocation.request.files
  | .error _ => []

end Cli
end StageRuns
