/-
# The surroundings of scheduling

Who schedules, for which pipeline, on which agents, with which profiles and
variables. A layer of variables, the name of a pipeline and the mark of a
rerun are put on top of surroundings, which stay as they are.

Key definitions: `Scheduling`, `Scheduling.withVariables`,
`Scheduling.forPipeline`, `Scheduling.permittingRerun`.
-/
import StageRuns.Agent
import StageRuns.Profile
import StageRuns.Variables

namespace StageRuns

/-- What is known while instances are made. -/
structure Scheduling where
  approvedBy : String := "Unknown"
  pipelineName : Option String := none
  agents : Agents := .empty
  environment : Variables := .empty
  elasticProfiles : List ElasticProfile := []
  clusterProfiles : List ClusterProfile := []
  isRerun : Bool := false
deriving Repr, DecidableEq, Inhabited

namespace Scheduling

/-- With a layer of variables on top. -/
def withVariables (s : Scheduling) (upper : Variables) : Scheduling :=
  { s with environment := s.environment.overriddenBy upper }

/-- For a run of a pipeline. -/
def forPipeline (s : Scheduling) (name : String) : Scheduling :=
  { s with pipelineName := some name }

/-- For jobs that run again. -/
def permittingRerun (s : Scheduling) : Scheduling := { s with isRerun := true }

/-- The agents that carry all required resources. -/
def matching (s : Scheduling) (required : List String) : List Agent := s.agents.matching required

/-- The elastic profile of an identifier. -/
def elasticProfile? (s : Scheduling) (id : String) : Option ElasticProfile :=
  Profiles.find? ElasticProfile.id s.elasticProfiles id

/-- The cluster profile of an identifier. -/
def clusterProfile? (s : Scheduling) (id : String) : Option ClusterProfile :=
  Profiles.find? ClusterProfile.id s.clusterProfiles id

end Scheduling
end StageRuns
