/-
# Pipeline runs

A run of a pipeline holds its cause, the stages that were made so far, the
template of its label and the variables that the label may show. The counter
and the label are settled when the run is numbered.

Key definitions: `Pipeline`, `Pipeline.withCounter`, `Pipeline.stage?`.
-/
import StageRuns.Cause
import StageRuns.Label
import StageRuns.Stage

namespace StageRuns

/-- One run of a pipeline. -/
structure Pipeline where
  id : PipelineId := .unsaved
  name : String
  counter : Nat := 0
  label : Option String := none
  cause : BuildCause
  stages : List Stage
  labelTemplate : String := defaultLabelTemplate
  environment : Variables := .empty
deriving Repr, DecidableEq

namespace Pipeline

/-- The values that the label of the run may show. -/
def labelValues (run : Pipeline) (counter : Nat) : Label.Values :=
  ⟨counter, run.environment, run.cause.revisions⟩

/-- The run with a counter, and the label that results. -/
def withCounter (run : Pipeline) (counter : Nat) : Pipeline :=
  { run with counter, label := some ((run.labelValues counter).expand run.labelTemplate) }

/-- The stage that the run started with. -/
def firstStage? (run : Pipeline) : Option Stage := run.stages.head?

/-- The first stage of a name. -/
def stage? (run : Pipeline) (name : String) : Option Stage :=
  run.stages.find? fun s => Text.sameName s.name name

end Pipeline
end StageRuns
