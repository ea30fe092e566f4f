/-
# Instantiation

From configuration to stages and pipeline runs. Variables come in layers, each
over the one before: pipeline, cause of the run, stage, job. A stage has the
instances of all its jobs in the order of the configuration; a pipeline run
starts with its first stage alone, after its cause was checked.

Key definitions: `Scheduling.jobPlan`, `Scheduling.jobInstances`,
`Scheduling.instantiate`, `Scheduling.instantiateNamed`, `Scheduling.run`.
-/
import StageRuns.Expansion
import StageRuns.Pipeline

namespace StageRuns
namespace Scheduling

/-- The elastic profile that a job asks for, if it is known. -/
def elasticFor (s : Scheduling) (job : JobConfig) : Option ElasticProfile :=
  job.elasticProfileId.bind s.elasticProfile?

/-- The plan of a job; its own variables are the upper layer. -/
def jobPlan (s : Scheduling) (stageName : String) (job : JobConfig) : JobPlan where
  identifier :=
    { pipelineName := s.pipelineName, stageName, jobName := job.name, buildId := .unsaved }
  resources := job.resources
  artifactPlans := job.artifacts.map ArtifactPlan.ofConfig
  environment := s.environment.overriddenBy job.environment
  elasticProfile := s.elasticFor job
  clusterProfile := (s.elasticFor job).bind fun e => s.clusterProfile? e.clusterProfileId
  timeoutMinutes := job.timeoutMinutes

/-- The instances of a job. -/
def jobInstances (s : Scheduling) (stageName : String) (job : JobConfig) (now : Instant) :
    Except Failure Jobs :=
  (Expansion.ofConfig job).jobs stageName job (s.jobPlan stageName job) s now

/-- The jobs with the instances of one more configured job. -/
def addJob (s : Scheduling) (stageName : String) (now : Instant) (jobs : Jobs) (job : JobConfig) :
    Except Failure Jobs := do
  jobs.appended (← s.jobInstances stageName job now).members

/-- A stage with the instances of all its jobs, in the order of the
configuration. -/
def instantiate (s : Scheduling) (stage : StageConfig) (configVersion : String) (now : Instant) :
    Except Failure Stage := do
  let inner := s.withVariables stage.environment
  let jobs ← stage.jobs.foldlM (inner.addJob stage.name now) .empty
  return {
    name := stage.name
    jobs
    approvalType := stage.approval
    approvedBy := s.approvedBy
    configVersion
    fetchMaterials := stage.fetchMaterials
    cleanWorkingDir := stage.cleanWorkingDir
    createdTime := now }

/-- The stage of a name in a pipeline, or the failure to find it. -/
def findStage (pipeline : PipelineConfig) (stageName : String) : Except Failure StageConfig :=
  match pipeline.stage? stageName with
  | some stage => .ok stage
  | none => .error (.stageNotFound stageName pipeline.name)

/-- The surroundings inside a run of a pipeline, under a layer of variables. -/
def inside (s : Scheduling) (pipeline : PipelineConfig) (environment : Variables) : Scheduling :=
  (s.forPipeline pipeline.name).withVariables environment

/-- The stage of a name in a pipeline, with the variables of the pipeline under
its own. -/
def instantiateNamed (s : Scheduling) (pipeline : PipelineConfig) (stageName configVersion : String)
    (now : Instant) : Except Failure Stage := do
  let stage ← findStage pipeline stageName
  (s.inside pipeline pipeline.environment).instantiate stage configVersion now

/-- A run of a pipeline with its first stage. -/
def run (s : Scheduling) (pipeline : PipelineConfig) (cause : BuildCause) (configVersion : String)
    (now : Instant) : Except Failure Pipeline := do
  cause.checkPipeline pipeline
  match pipeline.firstStage? with
  | none => .error (.invalidArgument ("Pipeline '" ++ pipeline.name ++ "' has no stages."))
  | some first =>
    let environment := pipeline.environment.overriddenBy cause.environment
    let stage ← (s.inside pipeline environment).instantiate first configVersion now
    return {
      name := pipeline.name
      cause
      stages := [stage]
      labelTemplate := pipeline.labelTemplate
      environment }

end Scheduling
end StageRuns
