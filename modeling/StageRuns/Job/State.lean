/-
# The life cycle of a job

A job goes along the main line from `scheduled` to `completed` and may skip
stations but not go back. `discontinued` and `rescheduled` end its life early,
and it may pause and go on from anywhere while it lives.

Key definitions: `JobState`, `JobState.isTerminal`, `JobState.canMoveTo`,
`JobResult`, `Transition`.
-/
import StageRuns.Id
import StageRuns.Time.Instant

namespace StageRuns

/-- A station in the life of a job. -/
inductive JobState where
  | scheduled
  | assigned
  | preparing
  | building
  | completing
  | completed
  | discontinued
  | paused
  | rescheduled
deriving Repr, DecidableEq, Inhabited

namespace JobState

/-- The name of a state. -/
def text : JobState → String
  | scheduled => "Scheduled"
  | assigned => "Assigned"
  | preparing => "Preparing"
  | building => "Building"
  | completing => "Completing"
  | completed => "Completed"
  | discontinued => "Discontinued"
  | paused => "Paused"
  | rescheduled => "Rescheduled"

/-- All states. -/
def all : List JobState :=
  [scheduled, assigned, preparing, building, completing, completed, discontinued, paused,
    rescheduled]

/-- The position on the main line. -/
def mainLine? : JobState → Option Nat
  | scheduled => some 0
  | assigned => some 1
  | preparing => some 2
  | building => some 3
  | completing => some 4
  | completed => some 5
  | discontinued => none
  | paused => none
  | rescheduled => none

/-- Does the life of a job end here? -/
def isTerminal : JobState → Bool
  | completed => true
  | discontinued => true
  | rescheduled => true
  | _ => false

/-- Does the job go on from here? -/
def isActive (s : JobState) : Bool := !s.isTerminal

/-- Can every job that lives enter this state, wherever it is? -/
def isAlwaysOpen : JobState → Bool
  | paused => true
  | discontinued => true
  | rescheduled => true
  | completed => true
  | _ => false

/-- Does `next` come after `s` on the main line? -/
def isBefore (s next : JobState) : Bool :=
  match s.mainLine?, next.mainLine? with
  | some i, some j => i < j
  | _, _ => false

/-- May a job move from `s` to `next`? -/
def canMoveTo (s next : JobState) : Bool :=
  s.isActive && s != next && (next.isAlwaysOpen || s == paused || s.isBefore next)

end JobState

/-- How a job ended. -/
inductive JobResult where
  | unknown
  | passed
  | failed
  | cancelled
deriving Repr, DecidableEq, Inhabited

namespace JobResult

/-- The name of a result. -/
def text : JobResult → String
  | unknown => "Unknown"
  | passed => "Passed"
  | failed => "Failed"
  | cancelled => "Cancelled"

/-- All results. -/
def all : List JobResult := [unknown, passed, failed, cancelled]

end JobResult

/-- The record that a job entered a state. -/
structure Transition where
  id : TransitionId
  state : JobState
  time : Instant
deriving Repr, DecidableEq

namespace Transition

/-- A record that is not saved yet. -/
def unsaved (state : JobState) (time : Instant) : Transition := ⟨.unsaved, state, time⟩

/-- The records with the numbers from `first` on. -/
def number (first : Int) : List Transition → List Transition
  | [] => []
  | t :: ts => { t with id := ⟨first⟩ } :: number (first + 1) ts

/-- The records as if none was saved. -/
def forget (ts : List Transition) : List Transition := ts.map fun t => { t with id := .unsaved }

end Transition
end StageRuns
