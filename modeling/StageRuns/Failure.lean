/-
# Failures

The reasons why a request is refused, and the two that lie outside the
request. A failure is a cause with the names it is about; its wording is in
one place, `Failure.message`.

Key definitions: `Failure`, `Failure.message`, `Failure.isRequestFault`.
-/
import StageRuns.Job.State
import StageRuns.Text.Escaped

namespace StageRuns

/-- Why something could not be done. -/
inductive Failure where
  /-- The pipeline configures no stage of this name. -/
  | stageNotFound (stage pipeline : String)
  /-- A job of the stage cannot be run again. -/
  | cannotRerunJob (job information : String)
  /-- The cause of a run does not carry these materials. -/
  | materialsMismatch (missing : List String)
  /-- No agent has the resources that the job asks for. -/
  | noMatchingAgents (job stage : String)
  /-- The request makes no sense. -/
  | invalidArgument (text : String)
  /-- The life cycle does not lead from one state to the other. -/
  | invalidTransition (job : String) (source target : JobState)
  /-- An agent of this identity is there already. -/
  | duplicateAgent (agent : AgentId)
  /-- A job of this name is there already. -/
  | duplicateJob (job : String)
  /-- A file or stream could not be used. -/
  | io (text : String)
  /-- A value could not be written. -/
  | serialization (text : String)
deriving Repr, DecidableEq

namespace Failure

/-- The wording of a failure. -/
def message : Failure → String
  | stageNotFound stage pipeline =>
    "Stage '" ++ stage ++ "' not found in pipeline '" ++ pipeline ++ "'"
  | cannotRerunJob job information => "Cannot rerun job '" ++ job ++ "'. " ++ information
  | materialsMismatch missing =>
    "Materials in build cause do not match pipeline configuration, missing: " ++
      Text.escapedList missing
  | noMatchingAgents job stage =>
    "Could not find matching agents to run job [" ++ job ++ "] of stage [" ++ stage ++ "]."
  | invalidArgument text => text
  | invalidTransition job source target =>
    "Job '" ++ job ++ "' cannot move from " ++ source.text ++ " to " ++ target.text
  | duplicateAgent agent => "Agent with same UUID already exists: " ++ agent.uuid
  | duplicateJob job => "Job with same name already exists: " ++ job
  | io text => "IO error: " ++ text
  | serialization text => "Serialization error: " ++ text

/-- Does the failure lie in the request, not in the system? -/
def isRequestFault : Failure → Bool
  | io _ => false
  | serialization _ => false
  | _ => true

/-- The failure to rerun a job whose configuration is gone. -/
def jobConfigMissing (job : String) : Failure :=
  cannotRerunJob job "Configuration for job doesn't exist."

end Failure
end StageRuns
