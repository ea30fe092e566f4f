/-
# Saving a stage

Saving gives numbers to records that have none, from a counter that goes up:
first to the stage, then, job by job, to the job and to its transitions. When
one transition of a job has no number, all its transitions get new ones.

Key definitions: `JobInstance.save`, `Stage.save`.
-/
import StageRuns.Stage

namespace StageRuns

/-- The number of a record that is saved under the next number, unless it has
one, and the next number after that. -/
def Id.save {entity : Entity} (id : Id entity) (next : Int) : Id entity × Int :=
  if id.isSaved then (id, next) else (⟨next⟩, next + 1)

namespace JobInstance

/-- Have all transitions a number? -/
def areTransitionsSaved (job : JobInstance) : Bool := job.transitions.all (·.id.isSaved)

/-- The saved transitions, and the next number after them. -/
def saveTransitions (job : JobInstance) (next : Int) : JobInstance × Int :=
  if job.areTransitionsSaved then (job, next)
  else (job.numberTransitions next, next + job.transitions.length)

/-- The saved job, and the next number after it. -/
def save (job : JobInstance) (next : Int) : JobInstance × Int :=
  if job.id.isSaved then job.saveTransitions next
  else (job.withId ⟨next⟩).saveTransitions (next + 1)

end JobInstance

namespace Stage

/-- The saved jobs, and the next number after them. -/
def saveJobs (next : Int) : List JobInstance → List JobInstance × Int
  | [] => ([], next)
  | job :: rest =>
    let (job, next) := job.save next
    let (rest, next) := saveJobs next rest
    (job :: rest, next)

/-- The saved stage, and the next number after it. -/
def save (stage : Stage) (next : Int) : Stage × Int :=
  let (id, next) := stage.id.save next
  let (jobs, next) := saveJobs next stage.jobs.members
  ({ stage with id, jobs := ⟨jobs⟩ }, next)

end Stage
end StageRuns
