/-
# Stage and pipeline configuration

A pipeline has materials and stages, a stage has jobs, and each of them may
set variables. Stages and jobs are looked up by name without regard to the
case of the letters A to Z; the first of a name counts.

Key definitions: `ApprovalType`, `StageConfig`, `StageConfig.job?`,
`PipelineConfig`, `PipelineConfig.stage?`, `defaultLabelTemplate`.
-/
import StageRuns.Config.Job
import StageRuns.Material

namespace StageRuns

/-- How a stage may start once the stage before it has passed. -/
inductive ApprovalType where
  | success
  | manual
deriving Repr, DecidableEq, Inhabited

namespace ApprovalType

/-- The written name of an approval. -/
def text : ApprovalType → String
  | success => "success"
  | manual => "manual"

/-- All approvals. -/
def all : List ApprovalType := [success, manual]

end ApprovalType

/-- A stage as it is configured. -/
structure StageConfig where
  name : String
  jobs : List JobConfig
  approval : ApprovalType := .success
  environment : Variables := .empty
  fetchMaterials : Bool := true
  cleanWorkingDir : Bool := false
deriving Repr, DecidableEq

namespace StageConfig

/-- The first job of a name. -/
def job? (stage : StageConfig) (name : String) : Option JobConfig :=
  stage.jobs.find? fun j => Text.sameName j.name name

/-- The jobs with a change to the first one of a name. -/
def updateFirst (name : String) (change : JobConfig → JobConfig) : List JobConfig → List JobConfig
  | [] => []
  | j :: js => if Text.sameName j.name name then change j :: js else j :: updateFirst name change js

/-- The stage with a change to the first job of a name. -/
def updateJob (stage : StageConfig) (name : String) (change : JobConfig → JobConfig) :
    StageConfig :=
  { stage with jobs := updateFirst name change stage.jobs }

end StageConfig

/-- The template of a label that shows the counter alone. -/
def defaultLabelTemplate : String := "$\x7bCOUNT\x7d"

/-- A pipeline as it is configured. -/
structure PipelineConfig where
  name : String
  materials : List Material := []
  stages : List StageConfig
  environment : Variables := .empty
  labelTemplate : String := defaultLabelTemplate
deriving Repr, DecidableEq

namespace PipelineConfig

/-- The first stage of a name. -/
def stage? (pipeline : PipelineConfig) (name : String) : Option StageConfig :=
  pipeline.stages.find? fun s => Text.sameName s.name name

/-- The stage that a run starts with. -/
def firstStage? (pipeline : PipelineConfig) : Option StageConfig := pipeline.stages.head?

end PipelineConfig
end StageRuns
