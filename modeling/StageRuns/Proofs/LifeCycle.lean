/-
# The life of a job

Whatever is called on a job, its transitions tell its life: the first one is the
creation, each leads to the next, the last one is where the job is, and there is one
more of them than calls that moved the job (`JobInstance.hasLived_after`). A job that
has ended does not move again.

How long a life may be is measured by a height of states that every move increases by
one at least, except for a pause, which brings it down by six at most
(`JobState.height_lt`). No state is higher than six, so between two pauses there are
six moves at most.

Key definitions: `JobInstance.after`, `JobInstance.moves`, `JobState.height`,
`JobState.IsLife`, `JobInstance.Lived`, `JobInstance.HasLived`.
Key theorems: `JobState.IsLife.move`, `JobInstance.Lived.applied`,
`JobInstance.Lived.after`, `JobInstance.hasLived_after`.
-/
import StageRuns.Proofs.Calls
import Mathlib.Data.List.Chain

namespace StageRuns

/-! ### Runs of calls -/

namespace JobInstance

/-- The job after some calls, of which each may have failed. -/
def after (job : JobInstance) (calls : List Call) : JobInstance :=
  calls.foldl (fun job call => (job.applied call).2) job

/-- The calls that moved the job. -/
def moves : JobInstance → List Call → List Call
  | _, [] => []
  | job, call :: calls =>
    if call.target?.isSome && (job.applied call).1.isOk then
      call :: moves (job.applied call).2 calls
    else moves (job.applied call).2 calls

/-- The states that the job went through. -/
def states (job : JobInstance) : List JobState := job.transitions.map (·.state)

end JobInstance

/-! ### Lives -/

namespace JobState

/-- A pause is at the bottom and an end at the top; in between, a state is the higher
the further it is on the main line. -/
def height : JobState → Nat
  | paused => 0
  | scheduled => 1
  | assigned => 2
  | preparing => 3
  | building => 4
  | completing => 5
  | completed => 6
  | discontinued => 6
  | rescheduled => 6

theorem height_le (s : JobState) : s.height ≤ 6 := by
  cases s <;> decide

/-- A move goes up, unless it is a pause, which is six below the top. -/
theorem height_lt {s next : JobState} (h : s.canMoveTo next = true) :
    s.height + 1 ≤ next.height + 6 * [next].count .paused := by
  revert h
  cases s <;> cases next <;> decide

/-- The states are those of a life that has come to the last of them. -/
structure IsLife (states : List JobState) (current : JobState) : Prop where
  first : states.head? = some .scheduled
  last : states.getLast? = some current
  adjacent : states.IsChain fun a b => a.canMoveTo b = true
  terminal : ∀ s ∈ states.dropLast, s.isTerminal = false
  pauses : states.length ≤ 6 * states.count .paused + current.height

theorem isLife_scheduled : IsLife [.scheduled] .scheduled :=
  ⟨rfl, rfl, .singleton _, fun _ h => absurd h List.not_mem_nil, by decide⟩

/-- A life goes on with a move from its last state. -/
theorem IsLife.move {states : List JobState} {s next : JobState} (h : IsLife states s)
    (hmove : s.canMoveTo next = true) : IsLife (states ++ [next]) next := by
  have hne : states ≠ [] := by
    rintro rfl
    cases h.last
  refine ⟨?_, List.getLast?_concat, ?_, ?_, ?_⟩
  · rw [List.head?_append_of_ne_nil _ hne]
    exact h.first
  · refine List.isChain_append.mpr ⟨h.adjacent, .singleton _, fun a ha b hb => ?_⟩
    rw [h.last] at ha
    cases ha
    cases hb
    exact hmove
  · intro earlier he
    rw [List.dropLast_concat] at he
    obtain ⟨before, hbefore⟩ := List.getLast?_eq_some_iff.mp h.last
    rw [hbefore] at he
    rcases List.mem_append.mp he with he | he
    · refine h.terminal earlier ?_
      rw [hbefore, List.dropLast_concat]
      exact he
    · rw [List.mem_singleton.mp he]
      exact isTerminal_eq_false hmove
  · have hheight := height_lt hmove
    have hbound := h.pauses
    rw [List.length_append, List.length_singleton, List.count_append]
    omega

end JobState

namespace JobInstance

variable {job next : JobInstance} {call : Call} {name : String} {created : Instant}
  {done : List Call}

/-- The job of a name has gone through a life since it was created, by as many moves as
calls moved it, and it has the result of the call that completed it. -/
structure Lived (job : JobInstance) (name : String) (created : Instant) (moves : List Call) :
    Prop where
  name : job.name = name
  life : JobState.IsLife job.states job.state
  first : (job.transitions.map fun t => (t.state, t.time)).head? = some (.scheduled, created)
  count : job.transitions.length = 1 + moves.length
  outcome : job.state = .completed ∧ moves.filterMap Call.result? = [job.result] ∨
    job.state ≠ .completed ∧ moves.filterMap Call.result? = [] ∧ job.result = .unknown

theorem lived_create (name : String) (plan : JobPlan) (runType : RunType) (created : Instant) :
    (create name plan runType created).Lived name created [] :=
  ⟨rfl, JobState.isLife_scheduled, rfl, rfl, .inr ⟨nofun, rfl, rfl⟩⟩

theorem Lived.sameLife (h : job.Lived name created done) (hs : job.SameLife next) :
    next.Lived name created done := by
  have hstates : next.states = job.states := by
    have hmap := congrArg (List.map Prod.fst) hs.transitions
    rw [List.map_map, List.map_map] at hmap
    exact hmap
  have hlength : next.transitions.length = job.transitions.length := by
    have hmap := congrArg List.length hs.transitions
    rw [List.length_map, List.length_map] at hmap
    exact hmap
  refine ⟨hs.name.trans h.name, ?_, ?_, hlength.trans h.count, ?_⟩
  · rw [hstates, hs.state]
    exact h.life
  · rw [hs.transitions]
    exact h.first
  · rw [hs.state, hs.result]
    exact h.outcome

/-- A move makes the life longer by one state. A job that is completed was not so
before, and it gets the result of the call. -/
theorem Lived.moved {target : JobState} (h : job.Lived name created done)
    (hm : job.Moved next call target) : next.Lived name created (done ++ [call]) := by
  obtain ⟨time, htransitions⟩ := hm.transitions
  have hne : job.transitions ≠ [] := by
    intro hnil
    have hfirst := h.first
    rw [hnil] at hfirst
    cases hfirst
  refine ⟨hm.name.trans h.name, ?_, ?_, ?_, ?_⟩
  · rw [states, htransitions, List.map_append, hm.state]
    exact h.life.move hm.allowed
  · rw [htransitions, List.map_append, List.head?_append_of_ne_nil _ (by simpa using hne)]
    exact h.first
  · rw [htransitions, List.length_append, List.length_append, h.count]
    simp only [List.length_singleton]
    omega
  · have hactive := JobState.isTerminal_eq_false hm.allowed
    rcases h.outcome with ⟨hc, -⟩ | ⟨-, hnone, hunknown⟩
    · rw [hc] at hactive
      cases hactive
    · rw [List.filterMap_append, hnone, List.nil_append, hm.state, hm.result]
      cases hr : call.result? with
      | none =>
        have hno : target ≠ .completed := fun ht => by
          have := hm.completes.mp ht
          rw [hr] at this
          cases this
        refine .inr ⟨hno, ?_, hunknown⟩
        simp [hr]
      | some result =>
        refine .inl ⟨hm.completes.mpr (by rw [hr]; rfl), ?_⟩
        simp [hr]

/-- A call leaves a life, with one move more if the call moved the job. -/
theorem Lived.applied (h : job.Lived name created done) (call : Call) :
    (job.applied call).2.Lived name created
      (done ++ if call.target?.isSome && (job.applied call).1.isOk then [call] else []) := by
  rcases job.applied_cases call with ⟨target, ht, ho, hm⟩ | ⟨target, ht, ho, hsame⟩ | ⟨ht, ho, hs⟩
  · rw [ht, ho]
    exact h.moved hm
  · rw [ht, ho, hsame]
    show job.Lived name created (done ++ [])
    rw [List.append_nil]
    exact h
  · rw [ht, ho]
    show (job.applied call).2.Lived name created (done ++ [])
    rw [List.append_nil]
    exact h.sameLife hs

/-- So do any calls. -/
theorem Lived.after : ∀ {job : JobInstance} {done : List Call} (calls : List Call),
    job.Lived name created done → (job.after calls).Lived name created (done ++ job.moves calls)
  | _, _, [], h => by
    rw [moves, List.append_nil]
    exact h
  | job, done, call :: calls, h => by
    have hnext := (h.applied call).after calls
    rw [List.append_assoc] at hnext
    have hmoves : job.moves (call :: calls) =
        (if call.target?.isSome && (job.applied call).1.isOk then [call] else []) ++
          moves (job.applied call).2 calls := by
      rw [moves]
      split <;> rfl
    rw [hmoves]
    exact hnext

/-- A job is completed exactly if one call gave it a result. -/
theorem Lived.completed_iff (h : job.Lived name created done) :
    job.state = .completed ↔ (done.filterMap Call.result?).length = 1 := by
  rcases h.outcome with ⟨hc, hr⟩ | ⟨hc, hr, -⟩
  · exact iff_of_true hc (by rw [hr]; rfl)
  · exact iff_of_false hc (by rw [hr]; exact nofun)

/-- It has the result that this call gave it. -/
theorem Lived.result_eq (h : job.Lived name created done) {result : JobResult}
    (hr : done.filterMap Call.result? = [result]) : job.result = result := by
  rcases h.outcome with ⟨-, hresult⟩ | ⟨-, hnone, -⟩
  · rw [hresult] at hr
    cases hr
    rfl
  · rw [hnone] at hr
    cases hr

/-- As long as it is not completed, its result is unknown. -/
theorem Lived.result_eq_unknown (h : job.Lived name created done)
    (hr : (done.filterMap Call.result?).length ≠ 1) : job.result = .unknown := by
  rcases h.outcome with ⟨-, hresult⟩ | ⟨-, -, hunknown⟩
  · exact absurd (by rw [hresult]; rfl) hr
  · exact hunknown

/-- A job that has ended stays where it is, whatever is called. -/
theorem state_after_of_terminal : ∀ {job : JobInstance} (calls : List Call),
    job.state.isTerminal = true → (job.after calls).state = job.state
  | _, [], _ => rfl
  | job, call :: calls, h => by
    have hstate := state_applied_of_terminal h call
    have hrest := state_after_of_terminal calls (hstate.symm ▸ h)
    exact hrest.trans hstate

/-- What is known of a job after any calls, of which some moved it. -/
structure HasLived (job : JobInstance) (name : String) (created : Instant) (moves : List Call) :
    Prop where
  first : job.transitions.head?.map (fun t => (t.state, t.time)) = some (.scheduled, created)
  last : job.transitions.getLast?.map (·.state) = some job.state
  count : job.transitions.length = 1 + moves.length
  adjacent : job.states.IsChain fun a b => a.canMoveTo b = true
  /-- A state in which a life ends is the last one. -/
  terminal : ∀ s ∈ job.states.dropLast, s.isTerminal = false
  completed : job.state = .completed ↔ (moves.filterMap Call.result?).length = 1
  result : ∀ result, moves.filterMap Call.result? = [result] → job.result = result
  unknown : (moves.filterMap Call.result?).length ≠ 1 → job.result = .unknown
  /-- A call that fails tells the name, the state and the requested state, and leaves
  the job as it is. -/
  failing : ∀ call failure, (job.applied call).1 = .error failure →
    (∃ target, call.target? = some target ∧
      failure = .invalidTransition name job.state target) ∧ (job.applied call).2 = job
  /-- A job that has ended does not move again, whatever is called in between. -/
  ended : job.state.isTerminal = true → ∀ later call, call.target?.isSome = true →
    ∃ failure, ((job.after later).applied call).1 = .error failure
  pauses : job.transitions.length ≤ 6 * job.states.count .paused + 6

/-- A job that was created and then went through any calls has lived. -/
theorem hasLived_after (name : String) (plan : JobPlan) (runType : RunType) (created : Instant)
    (calls : List Call) :
    ((create name plan runType created).after calls).HasLived name created
      ((create name plan runType created).moves calls) := by
  have h := (lived_create name plan runType created).after calls
  rw [List.nil_append] at h
  generalize (create name plan runType created).after calls = job at h ⊢
  generalize (create name plan runType created).moves calls = moves at h ⊢
  have hfailing : ∀ call failure, (job.applied call).1 = .error failure →
      (∃ target, call.target? = some target ∧
        failure = .invalidTransition name job.state target) ∧ (job.applied call).2 = job := by
    intro call failure hf
    have herror := applied_eq_error hf
    rw [h.name] at herror
    exact herror
  have hended : job.state.isTerminal = true → ∀ later call, call.target?.isSome = true →
      ∃ failure, ((job.after later).applied call).1 = .error failure := by
    intro hend later call ht
    have hstate := state_after_of_terminal later hend
    exact exists_error_of_terminal (hstate.symm ▸ hend) ht
  have hpauses : job.transitions.length ≤ 6 * job.states.count .paused + 6 := by
    have hlength : job.states.length = job.transitions.length := List.length_map _
    have hbound := h.life.pauses
    have hheight := job.state.height_le
    omega
  refine ⟨?_, ?_, h.count, h.life.adjacent, h.life.terminal, h.completed_iff,
    fun _ hr => h.result_eq hr, h.result_eq_unknown, hfailing, hended, hpauses⟩
  · rw [← List.head?_map]
    exact h.first
  · rw [← List.getLast?_map]
    exact h.life.last

end JobInstance
end StageRuns
