/-
# The stage that runs jobs again

A stage whose jobs have all ended can be run again in part: the result is a
new stage in which the selected instances are replaced in place and all others
are copies that carry their outcome. The new stage counts on from the old one
and points to the counter that the chain of reruns started from.

Key definitions: `Stage.keep`, `mergeReplacements`, `Scheduling.rerun`,
`Scheduling.rerunNamed`.
-/
import StageRuns.Rerun.Replacement

namespace StageRuns

/-- What stays of an instance that is not selected: a copy of it. If its job no
longer runs on all agents, the copy is not bound to an agent. -/
def StageConfig.keep (config : StageConfig) (job : JobInstance) : JobInstance :=
  match config.job? job.baseName with
  | some current =>
    if job.isRunOnAllAgents && current.runType != .runOnAllAgents then job.copyForRerun.clearAgent
    else job.copyForRerun
  | none => job.copyForRerun

/-- What takes the place of a selected instance, when `earlier` holds the
selected instances before it. -/
def pieceFor (replacements : List Replacement) (earlier : List JobInstance) (job : JobInstance) :
    List JobInstance :=
  match replacements.find? fun r => r.covers job with
  | some r => r.piece (earlier.countP job.isSibling)
  | none => []

/-- The instances of the new stage, in the places of the old ones. -/
def mergeReplacements (isSelected : JobInstance → Bool) (keep : JobInstance → JobInstance)
    (replacements : List Replacement) (earlier : List JobInstance) :
    List JobInstance → List JobInstance
  | [] => []
  | job :: rest =>
    if isSelected job then
      pieceFor replacements earlier job ++
        mergeReplacements isSelected keep replacements (job :: earlier) rest
    else keep job :: mergeReplacements isSelected keep replacements earlier rest

namespace Scheduling

/-- The surroundings of a rerun of a stage. -/
def forRerun (s : Scheduling) (config : StageConfig) : Scheduling :=
  s.permittingRerun.withVariables config.environment

/-- What takes the places of the selected instances, job by job. -/
def replacements (s : Scheduling) (old : Stage) (request : List String) (config : StageConfig)
    (now : Instant) : Except Failure (List Replacement) :=
  (RerunGroup.ofInstances (old.selected request)).mapM fun g =>
    g.replacement old config (s.forRerun config) now

/-- The new stage that runs the requested jobs of an old one again. The old
stage must have ended. Its counter is followed by the next one, also where that
has more than 32 bits. -/
def rerun (s : Scheduling) (old : Stage) (request : List String) (config : StageConfig)
    (configVersion : String) (now : Instant) : Except Failure Stage := do
  if !old.isCompleted then
    throw (.invalidArgument
      ("Stage [" ++ old.name ++ "] is still in progress; only completed stages can be rerun."))
  old.checkRequest request
  let replacements ← s.replacements old request config now
  let jobs ← Jobs.ofList
    (mergeReplacements (old.selects request) config.keep replacements [] old.jobs.members)
  return {
    name := old.name
    jobs
    approvalType := old.approvalType
    approvedBy := s.approvedBy
    counter := old.counter + 1
    rerunOfCounter := some (old.rerunOfCounter.getD old.counter)
    configVersion
    fetchMaterials := old.fetchMaterials
    cleanWorkingDir := old.cleanWorkingDir
    createdTime := now }

/-- The rerun of a stage under its configuration in a pipeline, with the
variables of the pipeline under those of the stage. -/
def rerunNamed (s : Scheduling) (pipeline : PipelineConfig) (old : Stage) (stageName : String)
    (request : List String) (configVersion : String) (now : Instant) : Except Failure Stage := do
  let config ← findStage pipeline stageName
  (s.inside pipeline pipeline.environment).rerun old request config configVersion now

end Scheduling
end StageRuns
