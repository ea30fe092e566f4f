/-
# What can be called on a job

A job is moved along its life cycle and gets entries in its record by calls. They
change it in place, field by field, and some of them set a second field after the
move: the agent that took the job, or its result. `JobInstance.applied` runs the steps
of a call so. It gives what the moves of `JobInstance` give as values, and leaves the
old job when they fail (`JobInstance.applied_eq`): no step fails after another one has
changed the job.

A call moves the job where it leads, or it fails and tells so, or it does not touch
the life of the job (`JobInstance.applied_cases`).

Key definitions: `JobInstance.Call`, `JobInstance.perform`, `InPlace`,
`JobInstance.applied`, `JobInstance.Moved`, `JobInstance.SameLife`.
Key theorems: `InPlace.on_ofCall`, `JobInstance.applied_eq`,
`JobInstance.moved_of_perform`, `JobInstance.perform_eq_error`,
`JobInstance.applied_cases`, `JobInstance.exists_error_of_terminal`.
-/
import StageRuns.Proofs.Chain

namespace StageRuns

/-! ### Calls -/

/-- What can be called on a job: moves along its life cycle, and entries in its
record. -/
inductive JobInstance.Call where
  | changeState (next : JobState) (time : Instant)
  | assign (agent : AgentId) (time : Instant)
  | complete (result : JobResult) (time : Instant)
  | cancel (time : Instant)
  | discontinue (time : Instant)
  | reschedule (time : Instant)
  | preAssign (agent : AgentId)
  | clearAgent
  | markAsRerun
  | setId (id : JobId)
  | assignIds (first : Int)
deriving Repr, DecidableEq

namespace JobInstance

/-- The state that a call moves the job to, if it is a call of the life cycle. -/
def Call.target? : Call → Option JobState
  | changeState next _ => some next
  | assign _ _ => some .assigned
  | complete _ _ => some .completed
  | cancel _ => some .completed
  | discontinue _ => some .discontinued
  | reschedule _ => some .rescheduled
  | _ => none

/-- The result that a call gives to the job. -/
def Call.result? : Call → Option JobResult
  | complete result _ => some result
  | cancel _ => some .cancelled
  | _ => none

/-- The job after a call, or the failure of the call. -/
def perform (job : JobInstance) : Call → Except Failure JobInstance
  | .changeState next time => job.changeState next time
  | .assign agent time => job.assign agent time
  | .complete result time => job.complete result time
  | .cancel time => job.cancel time
  | .discontinue time => job.discontinue time
  | .reschedule time => job.reschedule time
  | .preAssign agent => .ok (job.bindAgent agent)
  | .clearAgent => .ok job.clearAgent
  | .markAsRerun => .ok job.markAsRerun
  | .setId id => .ok (job.withId id)
  | .assignIds first => .ok (job.numberTransitions first)

end JobInstance

/-! ### Calls in place -/

/-- Steps that change a job field by field. If one of them fails, what the steps
before it have set stays. -/
abbrev InPlace := ExceptT Failure (StateM JobInstance)

namespace InPlace

/-- The state is set, and then the transition is added. -/
def moveTo (next : JobState) (time : Instant) : InPlace Unit := do
  let job ← get
  if job.state.canMoveTo next then
    set { job with state := next }
    modify fun job => { job with transitions := job.transitions ++ [.unsaved next time] }
  else throw (.invalidTransition job.name job.state next)

/-- A move that does not complete the job. -/
def changeState (next : JobState) (time : Instant) : InPlace Unit := do
  let job ← get
  if next = .completed then throw (.invalidTransition job.name job.state next)
  else moveTo next time

/-- The move of a job that an agent took, and then the agent. -/
def assign (agent : AgentId) (time : Instant) : InPlace Unit := do
  changeState .assigned time
  modify fun job => job.bindAgent agent

/-- The end of a job, and then its result. -/
def complete (result : JobResult) (time : Instant) : InPlace Unit := do
  moveTo .completed time
  modify fun job => { job with result }

/-- The steps of a call. -/
def ofCall : JobInstance.Call → InPlace Unit
  | .changeState next time => changeState next time
  | .assign agent time => assign agent time
  | .complete result time => complete result time
  | .cancel time => complete .cancelled time
  | .discontinue time => changeState .discontinued time
  | .reschedule time => changeState .rescheduled time
  | .preAssign agent => modify fun job => job.bindAgent agent
  | .clearAgent => modify fun job => job.clearAgent
  | .markAsRerun => modify fun job => job.markAsRerun
  | .setId id => modify fun job => job.withId id
  | .assignIds first => modify fun job => job.numberTransitions first

/-- What steps make of a job, and whether they failed. -/
def on (steps : InPlace Unit) (job : JobInstance) : Except Failure Unit × JobInstance :=
  steps.run job

/-- The outcome of a call that gives a new job, or fails and leaves the old one. -/
def settled (job : JobInstance) : Except Failure JobInstance → Except Failure Unit × JobInstance
  | .ok next => (.ok (), next)
  | .error failure => (.error failure, job)

/-- Steps that read the job first. -/
theorem on_get (steps : JobInstance → InPlace Unit) (job : JobInstance) :
    (get >>= steps).on job = (steps job).on job := rfl

/-- A change after steps is made only if they do not fail. -/
theorem on_modify {steps : InPlace Unit} {moved : Except Failure JobInstance}
    (h : steps.on job = settled job moved) (change : JobInstance → JobInstance) :
    (do steps; modify change).on job = settled job (moved.map change) := by
  -- the change is what follows the outcome of the steps, in the job that they leave
  let rest : Except Failure Unit → StateM JobInstance (Except Failure Unit) :=
    ExceptT.bindCont fun _ => modify change
  have hsteps : (do steps; modify change).on job = rest (steps.on job).1 (steps.on job).2 := rfl
  rw [hsteps, h]
  cases moved <;> rfl

theorem on_moveTo (job : JobInstance) (next : JobState) (time : Instant) :
    (moveTo next time).on job = settled job (job.moveTo next time) := by
  unfold moveTo JobInstance.moveTo
  rw [on_get]
  by_cases h : job.state.canMoveTo next = true
  · rw [if_pos h, if_pos h]
    rfl
  · rw [if_neg h, if_neg h]
    rfl

theorem on_changeState (job : JobInstance) (next : JobState) (time : Instant) :
    (changeState next time).on job = settled job (job.changeState next time) := by
  unfold changeState JobInstance.changeState
  rw [on_get]
  by_cases h : next = .completed
  · rw [if_pos h, if_pos h]
    rfl
  · rw [if_neg h, if_neg h]
    exact on_moveTo job next time

theorem on_complete (job : JobInstance) (result : JobResult) (time : Instant) :
    (complete result time).on job = settled job (job.complete result time) :=
  on_modify (on_moveTo job .completed time) fun job => { job with result }

/-- In place, a call does what it gives as a value. -/
theorem on_ofCall (job : JobInstance) (call : JobInstance.Call) :
    (ofCall call).on job = settled job (job.perform call) := by
  cases call with
  | changeState next time => exact on_changeState job next time
  | assign agent time => exact on_modify (on_changeState job .assigned time) _
  | complete result time => exact on_complete job result time
  | cancel time => exact on_complete job .cancelled time
  | discontinue time => exact on_changeState job .discontinued time
  | reschedule time => exact on_changeState job .rescheduled time
  | preAssign | clearAgent | markAsRerun | setId | assignIds => rfl

end InPlace

/-! ### What a call does -/

/-- A job moves only from states in which its life does not end. -/
theorem JobState.isTerminal_eq_false {s next : JobState} (h : s.canMoveTo next = true) :
    s.isTerminal = false := by
  rw [canMoveTo, Bool.and_eq_true, Bool.and_eq_true, isActive, Bool.not_eq_true'] at h
  exact h.1.1

/-- The call moved the job along its life cycle. -/
structure JobInstance.Moved (job next : JobInstance) (call : JobInstance.Call)
    (target : JobState) : Prop where
  allowed : job.state.canMoveTo target = true
  name : next.name = job.name
  state : next.state = target
  transitions : ∃ time, next.transitions = job.transitions ++ [.unsaved target time]
  result : next.result = call.result?.getD job.result
  /-- A job is completed by those calls that come with a result. -/
  completes : target = .completed ↔ call.result?.isSome = true

/-- The life of the job is as it was. -/
structure JobInstance.SameLife (job next : JobInstance) : Prop where
  name : next.name = job.name
  state : next.state = job.state
  result : next.result = job.result
  transitions : (next.transitions.map fun t => (t.state, t.time)) =
    job.transitions.map fun t => (t.state, t.time)

namespace JobInstance

variable {job next : JobInstance} {call : Call} {target : JobState} {time : Instant}
  {failure : Failure}

theorem moveTo_eq_error (h : job.moveTo target time = .error failure) :
    failure = .invalidTransition job.name job.state target := by
  unfold moveTo at h
  split at h
  · cases h
  · cases h
    rfl

theorem changeState_eq_error (h : job.changeState target time = .error failure) :
    failure = .invalidTransition job.name job.state target := by
  unfold changeState at h
  split at h
  · cases h
    rfl
  · exact moveTo_eq_error h

theorem moved_changeState (h : job.changeState target time = .ok next)
    (hr : call.result? = none) : job.Moved next call target := by
  obtain ⟨hne, hm⟩ := changeState_eq_ok.mp h
  obtain ⟨hmove, rfl⟩ := moveTo_eq_ok.mp hm
  refine ⟨hmove, rfl, rfl, ⟨time, rfl⟩, ?_, ?_⟩
  · rw [hr]
    rfl
  · rw [hr]
    exact iff_of_false hne Bool.false_ne_true

theorem moved_complete {result : JobResult} (h : job.complete result time = .ok next)
    (hr : call.result? = some result) : job.Moved next call .completed := by
  obtain ⟨hmove, rfl⟩ := complete_eq_ok.mp h
  refine ⟨hmove, rfl, rfl, ⟨time, rfl⟩, ?_, ?_⟩
  · rw [hr]
    rfl
  · rw [hr]
    exact iff_of_true rfl rfl

/-- A call of the life cycle that succeeds moves the job to where it leads. -/
theorem moved_of_perform (ht : call.target? = some target) (h : job.perform call = .ok next) :
    job.Moved next call target := by
  cases call with
  | changeState | discontinue | reschedule =>
    cases ht
    exact moved_changeState h rfl
  | complete | cancel =>
    cases ht
    exact moved_complete h rfl
  | assign agent time =>
    cases ht
    obtain ⟨moved, hm, rfl⟩ := Outcome.map_eq_ok.mp h
    have hmoved : job.Moved moved (.assign agent time) .assigned := moved_changeState hm rfl
    exact ⟨hmoved.allowed, hmoved.name, hmoved.state, hmoved.transitions, hmoved.result,
      hmoved.completes⟩
  | preAssign | clearAgent | markAsRerun | setId | assignIds => cases ht

/-- All other calls succeed and leave the life of the job as it is. -/
theorem exists_perform_of_none (ht : call.target? = none) (job : JobInstance) :
    ∃ next, job.perform call = .ok next ∧ job.SameLife next := by
  cases call with
  | changeState | assign | complete | cancel | discontinue | reschedule => cases ht
  | preAssign | clearAgent | markAsRerun | setId => exact ⟨_, rfl, rfl, rfl, rfl, rfl⟩
  | assignIds first => exact ⟨_, rfl, rfl, rfl, rfl, Transition.map_number first job.transitions⟩

/-- A call that fails is one of the life cycle, which does not lead from where the job
is to where the call leads. -/
theorem perform_eq_error (h : job.perform call = .error failure) : ∃ target,
    call.target? = some target ∧ failure = .invalidTransition job.name job.state target := by
  cases call with
  | changeState | discontinue | reschedule => exact ⟨_, rfl, changeState_eq_error h⟩
  | assign => exact ⟨_, rfl, changeState_eq_error (Outcome.map_eq_error.mp h)⟩
  | complete | cancel => exact ⟨_, rfl, moveTo_eq_error (Outcome.map_eq_error.mp h)⟩
  | preAssign | clearAgent | markAsRerun | setId | assignIds => cases h

/-- Whether a call succeeds, and the job after it. -/
def applied (job : JobInstance) (call : Call) : Except Failure Unit × JobInstance :=
  (InPlace.ofCall call).on job

theorem applied_eq (job : JobInstance) (call : Call) :
    job.applied call = InPlace.settled job (job.perform call) :=
  InPlace.on_ofCall job call

/-- A call moves the job, or it fails, or it does not touch the life of the job. -/
theorem applied_cases (job : JobInstance) (call : Call) :
    (∃ target, call.target? = some target ∧ (job.applied call).1 = .ok () ∧
      job.Moved (job.applied call).2 call target) ∨
    (∃ target, call.target? = some target ∧ (job.applied call).1 =
      .error (.invalidTransition job.name job.state target) ∧ (job.applied call).2 = job) ∨
    call.target? = none ∧ (job.applied call).1 = .ok () ∧ job.SameLife (job.applied call).2 := by
  rw [applied_eq]
  cases hp : job.perform call with
  | error failure =>
    obtain ⟨target, ht, rfl⟩ := perform_eq_error hp
    exact .inr (.inl ⟨target, ht, rfl, rfl⟩)
  | ok next =>
    cases ht : call.target? with
    | some target => exact .inl ⟨target, rfl, rfl, moved_of_perform ht hp⟩
    | none =>
      obtain ⟨same, hs, hlife⟩ := exists_perform_of_none ht job
      rw [hp] at hs
      cases hs
      exact .inr (.inr ⟨rfl, rfl, hlife⟩)

/-- No call names the job anew. -/
theorem name_applied (job : JobInstance) (call : Call) : (job.applied call).2.name = job.name := by
  rcases job.applied_cases call with ⟨_, _, _, hm⟩ | ⟨_, _, _, hsame⟩ | ⟨_, _, hs⟩
  · exact hm.name
  · rw [hsame]
  · exact hs.name

/-- A call that fails tells where the job is and where the call leads, and leaves the job
as it is. -/
theorem applied_eq_error (h : (job.applied call).1 = .error failure) :
    (∃ target, call.target? = some target ∧
      failure = .invalidTransition job.name job.state target) ∧ (job.applied call).2 = job := by
  rcases job.applied_cases call with ⟨_, _, ho, _⟩ | ⟨target, ht, ho, hsame⟩ | ⟨_, ho, _⟩
  · rw [ho] at h
    cases h
  · rw [ho] at h
    cases h
    exact ⟨⟨target, ht, rfl⟩, hsame⟩
  · rw [ho] at h
    cases h

/-- No call moves a job that has ended. -/
theorem exists_error_of_terminal (h : job.state.isTerminal = true)
    (ht : call.target?.isSome = true) : ∃ failure, (job.applied call).1 = .error failure := by
  rcases job.applied_cases call with ⟨_, _, _, hm⟩ | ⟨_, _, ho, _⟩ | ⟨hno, _, _⟩
  · rw [JobState.isTerminal_eq_false hm.allowed] at h
    cases h
  · exact ⟨_, ho⟩
  · rw [hno] at ht
    cases ht

/-- A job that has ended stays where it is. -/
theorem state_applied_of_terminal (h : job.state.isTerminal = true) (call : Call) :
    (job.applied call).2.state = job.state := by
  rcases job.applied_cases call with ⟨_, _, _, hm⟩ | ⟨_, _, _, hsame⟩ | ⟨_, _, hs⟩
  · rw [JobState.isTerminal_eq_false hm.allowed] at h
    cases h
  · rw [hsame]
  · exact hs.state

end JobInstance

end StageRuns
