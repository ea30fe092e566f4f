/-
# Stages

A stage is one run of a configured stage: its instances and when, why and by
whom it was made. To run jobs again is to make a new stage, which counts on
from the old one and remembers the counter of the first. A stage is complete
when all its jobs have ended, and then its result is the worst of theirs.

Key definitions: `Stage`, `Stage.result`, `Stage.isCompleted`,
`Stage.completeAll`.
-/
import StageRuns.Config.Pipeline
import StageRuns.Job.Collection

namespace StageRuns

/-- How a stage ended. -/
inductive StageResult where
  | unknown
  | passed
  | failed
  | cancelled
deriving Repr, DecidableEq

namespace StageResult

/-- The written name of a result. -/
def text : StageResult → String
  | unknown => "unknown"
  | passed => "passed"
  | failed => "failed"
  | cancelled => "cancelled"

/-- All results. -/
def all : List StageResult := [unknown, passed, failed, cancelled]

end StageResult

/-- One run of a stage. -/
structure Stage where
  id : StageId := .unsaved
  name : String
  jobs : Jobs
  approvalType : ApprovalType
  approvedBy : String
  counter : Nat := 1
  rerunOfCounter : Option Nat := none
  configVersion : String
  fetchMaterials : Bool := true
  cleanWorkingDir : Bool := false
  createdTime : Instant
  latestRun : Bool := true
deriving Repr, DecidableEq

namespace Stage

/-- The instance of a name. -/
def job? (stage : Stage) (name : String) : Option JobInstance := stage.jobs.byName? name

/-- Were jobs of an earlier run made to run again here? -/
def isRerun (stage : Stage) : Bool := stage.rerunOfCounter.isSome

/-- Is one of the instances made to run a job again? -/
def hasRerunJobs (stage : Stage) : Bool := stage.jobs.members.any (·.isRerun)

/-- Have all jobs ended? -/
def isCompleted (stage : Stage) : Bool := stage.jobs.areEnded

/-- The worst result, once all jobs have ended. -/
def result (stage : Stage) : StageResult :=
  if !stage.isCompleted then .unknown
  else if stage.jobs.results.contains .cancelled then .cancelled
  else if stage.jobs.results.contains .failed then .failed
  else if stage.jobs.results.all (· == .passed) then .passed
  else .unknown

/-- The stage with other instances. -/
def withJobs (stage : Stage) (jobs : List JobInstance) : Stage := { stage with jobs := ⟨jobs⟩ }

/-- The job completed with the result, if it has not ended. A job that goes on
may always be completed. -/
def completeIfActive (result : JobResult) (time : Instant) (job : JobInstance) : JobInstance :=
  if job.isActive then
    match job.complete result time with
    | .ok done => done
    | .error _ => job
  else job

/-- The stage with all jobs that go on completed with the result. -/
def completeAll (stage : Stage) (result : JobResult) (time : Instant) : Stage :=
  stage.withJobs (stage.jobs.members.map (completeIfActive result time))

end Stage
end StageRuns
