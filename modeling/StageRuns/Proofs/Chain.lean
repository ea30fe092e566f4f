/-
# Chains of rounds

A chain starts with a stage as it is instantiated. Then the jobs of the stage
end, the stage may be saved, and a rerun makes the next stage, over and over.
What the jobs do until they end changes neither their names nor their run types
nor their agents, so an invariant of chains that speaks of these only has to be
shown for instantiation and for a rerun (`Stage.Reached.invariant`). To end is one
way to move on, of which there are more (`JobInstance.GoesOn`).

Key definitions: `JobInstance.EndsAs`, `Stage.EndsAs`, `JobInstance.GoesOn`,
`Stage.GoesOn`, `Stage.Reached`, `JobInstance.SameRole`.
Key theorems: `Stage.EndsAs.isCompleted`, `Stage.completeAll_endsAs`,
`Stage.Reached.invariant`.
-/
import StageRuns.Rerun.Stage
import StageRuns.Proofs.Instantiation
import StageRuns.Proofs.Lists
import StageRuns.Proofs.Saving

namespace StageRuns

/-! ### Ending -/

/-- What an instance is once all jobs of its stage have ended: it was completed,
with any result, unless it had ended before. -/
inductive JobInstance.EndsAs : JobInstance → JobInstance → Prop
  | before {job : JobInstance} : job.isActive = false → EndsAs job job
  | completed {job done : JobInstance} {result : JobResult} {time : Instant} :
      job.isActive = true → job.complete result time = .ok done → EndsAs job done

/-- The stage with all its jobs ended. -/
def Stage.EndsAs (stage done : Stage) : Prop :=
  ∃ jobs, List.Forall₂ JobInstance.EndsAs stage.jobs.members jobs ∧ done = stage.withJobs jobs

/-- Where an instance belongs is not affected by what happens to it. -/
structure JobInstance.SameRole (a b : JobInstance) : Prop where
  name : b.name = a.name
  runType : b.runType = a.runType
  agent : b.agent = a.agent

namespace JobInstance

variable {a b c d : JobInstance}

theorem SameRole.baseName (h : a.SameRole b) : b.baseName = a.baseName := by
  rw [JobInstance.baseName, JobInstance.baseName, h.name, h.runType]

theorem SameRole.index? (h : a.SameRole b) : b.index? = a.index? := by
  rw [JobInstance.index?, JobInstance.index?, h.name, h.runType]

theorem SameRole.indexFits (h : a.SameRole b) (hf : a.IndexFits) : b.IndexFits := by
  intro base k hr hn
  rw [h.runType] at hr hn
  rw [h.name] at hn
  exact hf base k hr hn

theorem SameRole.nameDiffers (hac : a.SameRole c) (hbd : b.SameRole d) (h : a.NameDiffers b) :
    c.NameDiffers d := by
  rw [NameDiffers, hac.name, hbd.name]
  exact h

variable {job done : JobInstance} {result : JobResult} {time : Instant}

theorem moveTo_eq_ok {state : JobState} : job.moveTo state time = .ok done ↔
    job.state.canMoveTo state = true ∧
      done = { job with state, transitions := job.transitions ++ [.unsaved state time] } := by
  unfold moveTo
  by_cases h : job.state.canMoveTo state = true
  · rw [if_pos h]
    exact ⟨fun hd => ⟨h, by cases hd; rfl⟩, fun hd => by rw [hd.2]⟩
  · rw [if_neg h]
    exact ⟨nofun, fun hd => absurd hd.1 h⟩

/-- A move that comes without a result does not complete the job. -/
theorem changeState_eq_ok {state : JobState} : job.changeState state time = .ok done ↔
    state ≠ .completed ∧ job.moveTo state time = .ok done := by
  unfold changeState
  by_cases h : state = .completed
  · rw [if_pos h]
    exact ⟨nofun, fun hn => absurd h hn.1⟩
  · rw [if_neg h]
    exact ⟨fun hm => ⟨h, hm⟩, fun hm => hm.2⟩

theorem complete_eq_ok : job.complete result time = .ok done ↔
    job.state.canMoveTo .completed = true ∧
      done = { job with state := .completed, result := result,
                        transitions := job.transitions ++ [.unsaved .completed time] } := by
  simp only [complete, Outcome.map_eq_ok, moveTo_eq_ok]
  constructor
  · rintro ⟨_, ⟨h, rfl⟩, rfl⟩
    exact ⟨h, rfl⟩
  · rintro ⟨h, rfl⟩
    exact ⟨_, ⟨h, rfl⟩, rfl⟩

/-- A job that goes on may always be completed. -/
theorem canMoveTo_completed (h : job.isActive = true) :
    job.state.canMoveTo .completed = true := by
  rw [isActive] at h
  cases hs : job.state <;> rw [hs] at h <;> first | rfl | cases h

theorem EndsAs.isActive_eq_false (h : job.EndsAs done) : done.isActive = false := by
  cases h with
  | before h => exact h
  | completed _ hd =>
    rw [(complete_eq_ok.mp hd).2]
    rfl

theorem EndsAs.sameRole (h : job.EndsAs done) : job.SameRole done := by
  cases h with
  | before h => exact ⟨rfl, rfl, rfl⟩
  | completed _ hd =>
    rw [(complete_eq_ok.mp hd).2]
    exact ⟨rfl, rfl, rfl⟩

theorem completeIfActive_endsAs (job : JobInstance) (result : JobResult) (time : Instant) :
    job.EndsAs (Stage.completeIfActive result time job) := by
  unfold Stage.completeIfActive
  by_cases h : job.isActive = true
  · have hd : job.complete result time = .ok _ :=
      complete_eq_ok.mpr ⟨canMoveTo_completed h, rfl⟩
    rw [if_pos h, hd]
    exact .completed h hd
  · rw [if_neg h]
    exact .before (Bool.eq_false_iff.mpr h)

theorem SavedAs.sameRole (h : a.SavedAs b) : a.SameRole b :=
  ⟨h.outcome.name, h.outcome.runType, h.agent⟩

end JobInstance

/-! ### Moves -/

/-- A job makes a move, or none. -/
inductive JobInstance.GoesOn : JobInstance → JobInstance → Prop
  | rests (job : JobInstance) : GoesOn job job
  | moves {job next : JobInstance} {state : JobState} {time : Instant} :
      job.changeState state time = .ok next → GoesOn job next
  | assigned {job next : JobInstance} {agent : AgentId} {time : Instant} :
      job.assign agent time = .ok next → GoesOn job next
  | completes {job next : JobInstance} {result : JobResult} {time : Instant} :
      job.complete result time = .ok next → GoesOn job next

/-- Some jobs of the stage make a move. -/
def Stage.GoesOn (stage later : Stage) : Prop :=
  ∃ jobs, List.Forall₂ JobInstance.GoesOn stage.jobs.members jobs ∧ later = stage.withJobs jobs

namespace JobInstance

variable {job next a b : JobInstance} {state : JobState} {time : Instant}

/-- Only a job that goes on moves, and it keeps its origin. -/
theorem moveTo_spec (h : job.moveTo state time = .ok next) :
    job.isActive = true ∧ next.origin = job.origin := by
  obtain ⟨hmove, rfl⟩ := moveTo_eq_ok.mp h
  rw [JobState.canMoveTo, Bool.and_eq_true, Bool.and_eq_true] at hmove
  exact ⟨hmove.1.1, rfl⟩

theorem GoesOn.spec (h : a.GoesOn b) : b = a ∨ a.isActive = true ∧ b.origin = a.origin := by
  cases h with
  | rests => exact .inl rfl
  | moves h => exact .inr (moveTo_spec (changeState_eq_ok.mp h).2)
  | assigned h =>
    obtain ⟨j, hj, rfl⟩ := Outcome.map_eq_ok.mp h
    have hspec := moveTo_spec (changeState_eq_ok.mp hj).2
    exact .inr hspec
  | completes h =>
    obtain ⟨j, hj, rfl⟩ := Outcome.map_eq_ok.mp h
    have hspec := moveTo_spec hj
    exact .inr hspec

/-- Nothing happens to a job that has ended. -/
theorem GoesOn.eq_of_ended (h : a.GoesOn b) (hend : a.isActive = false) : b = a := by
  rcases h.spec with he | ⟨ha, -⟩
  · exact he
  · rw [hend] at ha
    cases ha

theorem GoesOn.origin_eq (h : a.GoesOn b) : b.origin = a.origin := by
  rcases h.spec with rfl | ⟨-, ho⟩
  · rfl
  · exact ho

/-- The end of a job is a move. -/
theorem EndsAs.goesOn (h : a.EndsAs b) : a.GoesOn b := by
  cases h with
  | before => exact .rests a
  | completed _ hd => exact .completes hd

end JobInstance

theorem Stage.EndsAs.goesOn {stage done : Stage} (h : stage.EndsAs done) : stage.GoesOn done := by
  obtain ⟨jobs, hj, rfl⟩ := h
  exact ⟨jobs, hj.imp fun _ _ h => h.goesOn, rfl⟩

/-! ### Stages that have ended -/

namespace Stage

variable {stage done : Stage}

theorem EndsAs.isCompleted (h : stage.EndsAs done) : done.isCompleted = true := by
  obtain ⟨jobs, hj, rfl⟩ := h
  refine List.all_eq_true.mpr fun j hj' => ?_
  obtain ⟨k, _, hk⟩ := Lists.exists_left hj hj'
  rw [hk.isActive_eq_false]
  rfl

/-- To complete all jobs with one result is one way for them to end. -/
theorem completeAll_endsAs (stage : Stage) (result : JobResult) (time : Instant) :
    stage.EndsAs (stage.completeAll result time) := by
  refine ⟨_, ?_, rfl⟩
  rw [List.forall₂_map_right_iff, List.forall₂_same]
  exact fun job _ => job.completeIfActive_endsAs result time

/-- The instances of both stages have the same roles, in the same order. -/
def SameRoles (a b : Stage) : Prop :=
  List.Forall₂ JobInstance.SameRole a.jobs.members b.jobs.members

theorem EndsAs.sameRoles (h : stage.EndsAs done) : stage.SameRoles done := by
  obtain ⟨jobs, hj, rfl⟩ := h
  exact hj.imp fun _ _ h => h.sameRole

theorem sameRoles_save (stage : Stage) (next : Int) : stage.SameRoles (stage.save next).1 :=
  (stage.forall₂_save next).imp fun _ _ h => h.sameRole

/-! ### Chains -/

/-- The stages of chains of rounds. A new stage must be allowed, together with
the surroundings and the configuration it was made in. -/
inductive Reached (allowed : Scheduling → StageConfig → Stage → Prop) : Stage → Prop
  /-- A chain starts with an instantiated stage. -/
  | instantiated {s : Scheduling} {config : StageConfig} {configVersion : String} {now : Instant}
      {stage : Stage} : s.instantiate config configVersion now = .ok stage →
      allowed s config stage → Reached allowed stage
  /-- The jobs of a stage end. -/
  | ended {stage done : Stage} : Reached allowed stage → stage.EndsAs done → Reached allowed done
  /-- A stage is saved. -/
  | saved {stage : Stage} {next : Int} : Reached allowed stage →
      Reached allowed (stage.save next).1
  /-- A rerun makes the next stage. -/
  | rerun {old new : Stage} {s : Scheduling} {config : StageConfig} {request : List String}
      {configVersion : String} {now : Instant} : Reached allowed old →
      s.rerun old request config configVersion now = .ok new → allowed s config new →
      Reached allowed new

/-- What holds of stages as they are instantiated, depends on the roles of the
instances only and passes on to a rerun holds along all chains. -/
theorem Reached.invariant {allowed : Scheduling → StageConfig → Stage → Prop} {P : Stage → Prop}
    (hroles : ∀ a b, P a → a.SameRoles b → P b)
    (hfresh : ∀ s config configVersion now stage,
      s.instantiate config configVersion now = .ok stage → allowed s config stage → P stage)
    (hrerun : ∀ s old request config configVersion now new, P old →
      s.rerun old request config configVersion now = .ok new → allowed s config new → P new)
    (h : stage.Reached allowed) : P stage := by
  induction h with
  | instantiated hi ha => exact hfresh _ _ _ _ _ hi ha
  | ended _ he ih => exact hroles _ _ ih he.sameRoles
  | saved _ ih => exact hroles _ _ ih (sameRoles_save _ _)
  | rerun _ hr ha ih => exact hrerun _ _ _ _ _ _ _ ih hr ha

end Stage

/-- The run of both jobs on two agents, which passed. -/
def passedOnTwoAgents : Stage := onTwoAgents.completeAll .passed ⟨1, 0⟩

theorem passedOnTwoAgents_reached {allowed : Scheduling → StageConfig → Stage → Prop}
    (h : allowed twoAgents agentsAndOnce onTwoAgents) : passedOnTwoAgents.Reached allowed :=
  .ended (.instantiated instantiate_agentsAndOnce h) (onTwoAgents.completeAll_endsAs _ _)

end StageRuns
