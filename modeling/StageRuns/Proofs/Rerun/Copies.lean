/-
# What a rerun keeps of the old stage

The copies in a new stage are one copy of each old instance that was not
selected, in the old order; every other instance is a scheduled one, made to
run its job again (`Scheduling.rerun_copies`). Nothing is asked of the old
stage, the request, the configuration or the surroundings.

Key definitions: `JobInstance.LosesAgent`, `JobInstance.IsCopyOf`.
Key theorems: `StageConfig.isCopyOf_keep`, `Scheduling.rerun_copies`.
-/
import StageRuns.Proofs.Chain
import StageRuns.Proofs.Rerun.Stage

namespace StageRuns

/-- The instance ran on its agent as one of all agents, but the job configured
under its base name does not run on all agents now. -/
def JobInstance.LosesAgent (old : JobInstance) (config : StageConfig) : Prop :=
  old.runType = .runOnAllAgents ∧
    ∃ job, config.job? old.baseName = some job ∧ job.runType ≠ .runOnAllAgents

/-- The instance carries the outcome of the old one into a new stage. -/
structure JobInstance.IsCopyOf (copy old : JobInstance) (config : StageConfig) : Prop where
  name : copy.name = old.name
  state : copy.state = old.state
  result : copy.result = old.result
  runType : copy.runType = old.runType
  scheduledDate : copy.scheduledDate = old.scheduledDate
  id : copy.id = .unsaved
  buildId : copy.plan.identifier.buildId = .unsaved
  /-- The plan is the old one apart from the number of the job. -/
  plan : copy.plan = { old.plan with
    identifier := { old.plan.identifier with buildId := copy.plan.identifier.buildId } }
  transitions : copy.transitions = old.transitions.map fun t => ⟨.unsaved, t.state, t.time⟩
  /-- The copy of a copy points to the instance that was copied first. -/
  source : ∀ id, old.origin = .copy id → copy.origin = .copy id
  sourceOfOriginal : old.isCopy = false → copy.origin = .copy old.id
  agentKept : ¬ old.LosesAgent config → copy.agent = old.agent
  agentCleared : old.LosesAgent config → copy.agent = none

namespace JobInstance

theorem isCopy_iff {job : JobInstance} : job.isCopy = true ↔ ∃ id, job.origin = .copy id := by
  rw [isCopy, source?]
  cases job.origin with
  | copy source => exact iff_of_true rfl ⟨source, rfl⟩
  | scheduled | rerun =>
    refine iff_of_false Bool.false_ne_true ?_
    rintro ⟨source, hsource⟩
    cases hsource

variable {copy old : JobInstance} {config : StageConfig}

theorem IsCopyOf.baseName (h : copy.IsCopyOf old config) : copy.baseName = old.baseName := by
  rw [JobInstance.baseName, JobInstance.baseName, h.name, h.runType]

/-- A copy carries the outcome of what it was copied from. -/
theorem IsCopyOf.sameOutcome (h : copy.IsCopyOf old config) : old.SameOutcome copy where
  name := h.name
  runType := h.runType
  state := h.state
  result := h.result
  scheduledDate := h.scheduledDate
  plan := h.plan
  transitions := by
    rw [h.transitions, List.map_map]
    rfl

end JobInstance

namespace StageConfig

variable {config : StageConfig} {job : JobInstance}

/-- Apart from its agent, what is kept of an instance is its copy. -/
theorem exists_keep_eq (config : StageConfig) (job : JobInstance) :
    ∃ agent, config.keep job = { job.copyForRerun with agent } := by
  unfold keep
  split
  · split
    · exact ⟨none, rfl⟩
    · exact ⟨job.agent, rfl⟩
  · exact ⟨job.agent, rfl⟩

theorem agent_keep_of_loses (h : job.LosesAgent config) : (config.keep job).agent = none := by
  obtain ⟨hr, current, hc, hne⟩ := h
  have hcond : (job.isRunOnAllAgents && current.runType != .runOnAllAgents) = true := by
    simp [JobInstance.isRunOnAllAgents, hr, hne]
  rw [keep, hc]
  simp only [hcond, ↓reduceIte]
  rfl

theorem agent_keep (h : ¬ job.LosesAgent config) : (config.keep job).agent = job.agent := by
  unfold keep
  cases hc : config.job? job.baseName with
  | none => rfl
  | some current =>
    by_cases hcond : (job.isRunOnAllAgents && current.runType != .runOnAllAgents) = true
    · have hl : job.runType = .runOnAllAgents ∧ current.runType ≠ .runOnAllAgents := by
        simpa [JobInstance.isRunOnAllAgents] using hcond
      exact absurd ⟨hl.1, current, hc, hl.2⟩ h
    · simp only [hcond, Bool.false_eq_true, ↓reduceIte]
      rfl

/-- What is kept of an instance carries its outcome. -/
theorem isCopyOf_keep (config : StageConfig) (job : JobInstance) :
    (config.keep job).IsCopyOf job config := by
  obtain ⟨agent, h⟩ := config.exists_keep_eq job
  refine ⟨?_, ?_, ?_, ?_, ?_, ?_, ?_, ?_, ?_, ?_, ?_, agent_keep, agent_keep_of_loses⟩
  all_goals rw [h]
  case refine_10 =>
    intro id ho
    rw [JobInstance.copyForRerun, JobInstance.source?, ho]
    rfl
  case refine_11 =>
    intro ho
    have hs : job.source? = none := by simpa [JobInstance.isCopy] using ho
    rw [JobInstance.copyForRerun, hs]
    rfl
  all_goals rfl

end StageConfig

variable {old : Stage} {request : List String} {config : StageConfig} {s : Scheduling}
  {now : Instant} {rs : List Replacement}

theorem StageConfig.isCopy_keep (config : StageConfig) (job : JobInstance) :
    (config.keep job).isCopy = true := by
  obtain ⟨agent, h⟩ := config.exists_keep_eq job
  rw [h]
  rfl

/-- The copies of a list of instances, one for each. -/
theorem forall₂_keep (config : StageConfig) : ∀ js : List JobInstance,
    List.Forall₂ (fun old copy => copy.IsCopyOf old config) js (js.map config.keep)
  | [] => .nil
  | j :: js => .cons (config.isCopyOf_keep j) (forall₂_keep config js)

/-- The instances that the request leaves alone, by either notion of selection. -/
theorem Stage.filter_not_selects (old : Stage) (request : List String) :
    (old.jobs.members.filter fun j => !old.selects request j) =
      old.jobs.members.filter fun j => ¬ old.Selects request j := by
  refine List.filter_congr fun j hj => ?_
  rw [Bool.eq_iff_iff, Bool.not_eq_true', decide_eq_true_iff, Stage.selects_eq_false_iff hj]

namespace ReplacedGroups

theorem filter_isCopy_merged (h : ReplacedGroups old request config s now rs) :
    (old.merged request config rs).filter (·.isCopy) = old.copies request config :=
  filter_mergeReplacements config.isCopy_keep (fun _ hr _ hj => h.isCopy_eq_false hr hj) _ _

/-- An instance of the new stage that is no copy is a scheduled one. -/
theorem scheduledAt_of_not_isCopy (h : ReplacedGroups old request config s now rs)
    {j : JobInstance} (hj : j ∈ old.merged request config rs) (hc : j.isCopy = false) :
    j.ScheduledAt now := by
  rcases mem_mergeReplacements hj with ⟨k, _, _, rfl⟩ | ⟨r, hr, hj⟩
  · rw [config.isCopy_keep k] at hc
    cases hc
  · obtain ⟨g, _, hg⟩ := h.exists_group hr
    exact hg.scheduledAt hj

end ReplacedGroups

/-- The copies in a new stage are one copy of each old instance that the request
does not select, in the old order. All other instances are made to run a job
again and have just been scheduled. -/
theorem Scheduling.rerun_copies {configVersion : String} {new : Stage}
    (h : s.rerun old request config configVersion now = .ok new) :
    List.Forall₂ (fun old copy => JobInstance.IsCopyOf copy old config)
        (old.jobs.members.filter fun j => ¬ old.Selects request j)
        (new.jobs.members.filter (·.isCopy)) ∧
      ∀ j ∈ new.jobs.members, j.isCopy = false → j.ScheduledAt now := by
  obtain ⟨-, -, rs, hrs, -, rfl⟩ := rerun_eq_ok.mp h
  constructor
  · have hcopies : (old.merged request config rs).filter (·.isCopy) =
        (old.jobs.members.filter fun j => ¬ old.Selects request j).map config.keep := by
      rw [hrs.filter_isCopy_merged, Stage.copies, old.filter_not_selects]
    show List.Forall₂ _ _ ((old.merged request config rs).filter (·.isCopy))
    rw [hcopies]
    exact forall₂_keep config _
  · intro j hj hc
    exact hrs.scheduledAt_of_not_isCopy hj hc

/-- Both jobs run once. -/
def bothOnce : StageConfig where
  name := "test"
  jobs := [{ name := "a" }, { name := "b" }]

/-- Job `b` is run again when job `a` runs once by now: the two instances of `a`
are copied, and neither keeps its agent. -/
theorem Scheduling.rerun_copies_passedOnTwoAgents : ∃ new,
    twoAgents.rerun passedOnTwoAgents ["B"] bothOnce "2" ⟨2, 0⟩ = .ok new ∧
    List.Forall₂ (fun old copy => JobInstance.IsCopyOf copy old bothOnce)
      (passedOnTwoAgents.jobs.members.filter fun j => ¬ passedOnTwoAgents.Selects ["B"] j)
      (new.jobs.members.filter (·.isCopy)) ∧
    ∀ j ∈ new.jobs.members, j.isCopy = false → j.ScheduledAt ⟨2, 0⟩ := by
  obtain ⟨new, hnew⟩ : ∃ new,
      twoAgents.rerun passedOnTwoAgents ["B"] bothOnce "2" ⟨2, 0⟩ = .ok new :=
    Outcome.exists_of_isOk (by decide +kernel)
  exact ⟨new, hnew, rerun_copies hnew⟩

end StageRuns
