/-
# Job instances

An instance is one unit of work of a stage. It is created `scheduled` and
moves through its life cycle, leaving a transition for each state it enters.
Its origin says whether it was made for a fresh stage, made to run a job
again, or carries the outcome of an earlier instance into a later stage.

Key definitions: `JobOrigin`, `JobInstance`, `JobInstance.create`,
`JobInstance.changeState`, `JobInstance.complete`, `JobInstance.copyForRerun`.
-/
import StageRuns.Failure
import StageRuns.Job.Plan

namespace StageRuns

/-- Where an instance of a stage comes from. -/
inductive JobOrigin where
  /-- It was made when the stage was instantiated. -/
  | scheduled
  /-- It was made to run a job of an earlier stage again. -/
  | rerun
  /-- It carries the outcome of the job of this number. -/
  | copy (source : JobId)
deriving Repr, DecidableEq, Inhabited

/-- One unit of work. -/
structure JobInstance where
  name : String
  id : JobId
  state : JobState
  result : JobResult
  agent : Option AgentId
  transitions : List Transition
  runType : RunType
  origin : JobOrigin
  scheduledDate : Instant
  plan : JobPlan
deriving Repr, DecidableEq

namespace JobInstance

/-- A new instance, with one transition. -/
def create (name : String) (plan : JobPlan) (runType : RunType) (now : Instant) : JobInstance :=
  { name, id := .unsaved, state := .scheduled, result := .unknown, agent := none,
    transitions := [.unsaved .scheduled now], runType, origin := .scheduled,
    scheduledDate := now, plan := plan.forJob name }

/-- Does the instance go on? -/
def isActive (job : JobInstance) : Bool := job.state.isActive

/-- Did the instance get to the end of the main line? -/
def isCompleted (job : JobInstance) : Bool := job.state == .completed

/-- Was the instance made to run a job again? -/
def isRerun (job : JobInstance) : Bool := job.origin == .rerun

/-- The number of the job whose outcome the instance carries. -/
def source? (job : JobInstance) : Option JobId :=
  match job.origin with
  | .copy source => some source
  | _ => none

/-- Does the instance carry the outcome of another? -/
def isCopy (job : JobInstance) : Bool := job.source?.isSome

/-- Is the instance one of those for all agents? -/
def isRunOnAllAgents (job : JobInstance) : Bool := job.runType == .runOnAllAgents

/-- Is the instance one of a configured number? -/
def isRunMultipleInstance (job : JobInstance) : Bool := job.runType == .runMultipleInstance

/-- The first transition to a state. -/
def transitionTo? (job : JobInstance) (state : JobState) : Option Transition :=
  job.transitions.find? fun t => t.state == state

/-- The transition of the last move. -/
def latestTransition? (job : JobInstance) : Option Transition := job.transitions.getLast?

/-! ### Records -/

/-- The instance under the number of its record. -/
def withId (job : JobInstance) (id : JobId) : JobInstance :=
  { job with id, plan := job.plan.withBuildId id }

/-- The transitions under the numbers from `first` on. -/
def numberTransitions (job : JobInstance) (first : Int) : JobInstance :=
  { job with transitions := Transition.number first job.transitions }

/-- The instance bound to an agent, without a move. -/
def bindAgent (job : JobInstance) (agent : AgentId) : JobInstance :=
  { job with agent := some agent }

/-- The instance without an agent. -/
def clearAgent (job : JobInstance) : JobInstance := { job with agent := none }

/-- The instance marked as one that runs a job again. -/
def markAsRerun (job : JobInstance) : JobInstance := { job with origin := .rerun }

/-- The instance with another plan. -/
def withPlan (job : JobInstance) (plan : JobPlan) : JobInstance := { job with plan }

/-! ### Moves -/

/-- The move to a state, if the life cycle leads there. -/
def moveTo (job : JobInstance) (next : JobState) (time : Instant) : Except Failure JobInstance :=
  if job.state.canMoveTo next then
    .ok { job with state := next, transitions := job.transitions ++ [.unsaved next time] }
  else
    .error (.invalidTransition job.name job.state next)

/-- A move that does not complete the job; completion comes with a result. -/
def changeState (job : JobInstance) (next : JobState) (time : Instant) :
    Except Failure JobInstance :=
  if next = .completed then .error (.invalidTransition job.name job.state next)
  else job.moveTo next time

/-- The move of a job that an agent took. -/
def assign (job : JobInstance) (agent : AgentId) (time : Instant) : Except Failure JobInstance :=
  (job.changeState .assigned time).map fun j => j.bindAgent agent

/-- The end of a job, with its result. -/
def complete (job : JobInstance) (result : JobResult) (time : Instant) :
    Except Failure JobInstance :=
  (job.moveTo .completed time).map fun j => { j with result }

/-- The end of a job that was cancelled. -/
def cancel (job : JobInstance) (time : Instant) : Except Failure JobInstance :=
  job.complete .cancelled time

/-- The early end of a job. -/
def discontinue (job : JobInstance) (time : Instant) : Except Failure JobInstance :=
  job.changeState .discontinued time

/-- The early end of a job that is to be scheduled anew. -/
def reschedule (job : JobInstance) (time : Instant) : Except Failure JobInstance :=
  job.changeState .rescheduled time

/-- An unsaved copy that carries the outcome into a later stage. It points to
the first saved instance, also through earlier copies. -/
def copyForRerun (job : JobInstance) : JobInstance :=
  { job with
    id := .unsaved
    plan := job.plan.withBuildId .unsaved
    transitions := Transition.forget job.transitions
    origin := .copy (job.source?.getD job.id) }

end JobInstance
end StageRuns
