/-
# Job configuration

A configured job runs once, on all agents with its resources, or a number of
times. The first setting wins if both of the others are given, and a count of
zero is no count.

Key definitions: `RunType`, `JobConfig`, `JobConfig.runType`.
-/
import StageRuns.Variables

namespace StageRuns

/-- How a job becomes instances. -/
inductive RunType where
  | single
  | runOnAllAgents
  | runMultipleInstance
deriving Repr, DecidableEq, Inhabited

namespace RunType

/-- The words for a run type in messages. -/
def description : RunType → String
  | single => "simple"
  | runOnAllAgents => "run on all agents"
  | runMultipleInstance => "run multiple instance"

/-- The written name of a run type. -/
def text : RunType → String
  | single => "single"
  | runOnAllAgents => "run_on_all_agents"
  | runMultipleInstance => "run_multiple_instance"

/-- All run types. -/
def all : List RunType := [single, runOnAllAgents, runMultipleInstance]

end RunType

/-- What an artifact is for. -/
inductive ArtifactKind where
  | build
  | test
deriving Repr, DecidableEq, Inhabited

namespace ArtifactKind

/-- The written name of a kind. -/
def text : ArtifactKind → String
  | build => "build"
  | test => "test"

/-- All kinds. -/
def all : List ArtifactKind := [build, test]

end ArtifactKind

/-- A file that a job leaves behind. -/
structure ArtifactConfig where
  source : String
  destination : Option String := none
  kind : ArtifactKind := .build
deriving Repr, DecidableEq

/-- A job as it is configured. -/
structure JobConfig where
  name : String
  resources : List String := []
  artifacts : List ArtifactConfig := []
  environment : Variables := .empty
  runOnAllAgents : Bool := false
  runInstanceCount : Option Nat := none
  elasticProfileId : Option String := none
  timeoutMinutes : Option Nat := none
deriving Repr, DecidableEq

/-- The run type that the configuration selects. -/
def JobConfig.runType (job : JobConfig) : RunType :=
  if job.runOnAllAgents then .runOnAllAgents
  else match job.runInstanceCount with
    | some (_ + 1) => .runMultipleInstance
    | _ => .single

end StageRuns
