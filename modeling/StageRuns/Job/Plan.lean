/-
# Job plans

A plan is what an agent needs to execute a job: where the job belongs, its
resources, artifacts and variables, and the profiles of an agent to be
provisioned for it.

Key definitions: `JobIdentifier`, `ArtifactPlan`, `JobPlan`.
-/
import StageRuns.Config.Job
import StageRuns.Id
import StageRuns.Profile

namespace StageRuns

/-- Where a job belongs. -/
structure JobIdentifier where
  pipelineName : Option String := none
  stageName : String := ""
  jobName : String := ""
  buildId : JobId := .unsaved
deriving Repr, DecidableEq, Inhabited

/-- A file to be kept, with a place for it. -/
structure ArtifactPlan where
  source : String
  destination : String
  kind : ArtifactKind
deriving Repr, DecidableEq

/-- The plan of a configured artifact; without a destination it goes to the
top. -/
def ArtifactPlan.ofConfig (artifact : ArtifactConfig) : ArtifactPlan :=
  ⟨artifact.source, artifact.destination.getD "", artifact.kind⟩

/-- What an agent needs to execute a job. -/
structure JobPlan where
  identifier : JobIdentifier := {}
  resources : List String := []
  artifactPlans : List ArtifactPlan := []
  environment : Variables := .empty
  elasticProfile : Option ElasticProfile := none
  clusterProfile : Option ClusterProfile := none
  timeoutMinutes : Option Nat := none
deriving Repr, DecidableEq, Inhabited

/-- The plan for a job of another name that is not saved yet. -/
def JobPlan.forJob (plan : JobPlan) (name : String) : JobPlan :=
  { plan with identifier := { plan.identifier with jobName := name, buildId := .unsaved } }

/-- The plan under the number of a saved job. -/
def JobPlan.withBuildId (plan : JobPlan) (id : JobId) : JobPlan :=
  { plan with identifier := { plan.identifier with buildId := id } }

end StageRuns
