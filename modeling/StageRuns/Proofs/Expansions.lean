/-
# When a stage is instantiated, and why not

Each job of a stage has an expansion (`Scheduling.expansion`): one instance without an
agent, an instance for each agent that matches, or a configured number of instances; the
names and agents are told by `JobConfig.places`. An expansion needs an agent if the job
runs on all agents, and never stumbles over its own names (`Expansion.jobs_eq`).

The expansions are added one after the other. So the first job decides that cannot be
expanded, or of whose instances one has the name of an instance before it
(`Scheduling.RefusesStage`, `Scheduling.instantiate_outcome`).

Generated names do not collide if the names of the jobs differ and none that runs once has
a name that ends in a marker and digits (`Scheduling.namesDiffer_expansions`). Job names
may hold markers otherwise, whole ones or parts.

Key definitions: `JobInstance.IsFresh`, `JobConfig.places`, `Scheduling.RefusesStage`.
Key theorems: `Scheduling.map_expansion`, `Scheduling.addJob_eq_error`,
`Scheduling.instantiate_eq_error`, `Scheduling.instantiate_outcome`,
`Scheduling.namesDiffer_expansions`, `Scheduling.instantiate_ne_duplicateJob`.
-/
import StageRuns.Proofs.NamedJobs

namespace StageRuns

/-- The instance was made for a new stage, and nothing happened to it since. -/
structure JobInstance.IsFresh (now : Instant) (job : JobInstance) : Prop where
  origin : job.origin = .scheduled
  state : job.state = .scheduled
  result : job.result = .unknown
  id : job.id = .unsaved
  transitions : job.transitions = [⟨.unsaved, .scheduled, now⟩]

/-- The names of the instances of a job, and the agents they are bound to. -/
def JobConfig.places (job : JobConfig) (agents : List Agent) : List (String × Option AgentId) :=
  match job.runType with
  | .single => [(job.name, none)]
  | .runOnAllAgents => agents.mapIdx fun i agent =>
    (instanceName job.name .runOnAllAgents (i + 1), some agent.id)
  | .runMultipleInstance => (List.range (job.runInstanceCount.getD 1)).map fun i =>
    (instanceName job.name .runMultipleInstance (i + 1), none)

namespace Scheduling

variable {s : Scheduling} {stageName : String} {now : Instant} {job : JobConfig}

/-- The names and agents of an expansion. -/
theorem map_expansion : (s.expansion stageName now job).map (fun j => (j.name, j.agent)) =
    job.places (s.matching job.resources) := by
  unfold JobConfig.places
  cases hr : job.runType with
  | single =>
    rw [expansion_of_single hr]
    rfl
  | runOnAllAgents =>
    rw [expansion_of_runOnAllAgents hr, map_agentRow]
    simp only [Nat.zero_add]
    rfl
  | runMultipleInstance =>
    rw [expansion_of_runMultiple hr, List.map_map]
    rfl

theorem isFresh_of_mem_expansion {j : JobInstance} (hj : j ∈ s.expansion stageName now job) :
    j.IsFresh now := by
  obtain ⟨name, plan, runType, agent, rfl⟩ := exists_create hj
  exact ⟨rfl, rfl, rfl, rfl, rfl⟩

/-! ### All jobs -/

/-- Why a stage is not instantiated. The jobs before the one that decides would make a
stage. -/
inductive RefusesStage (s : Scheduling) (config : StageConfig) (now : Instant) : Failure → Prop
  /-- No agent matches a job that runs on all agents. -/
  | noAgent {before after : List JobConfig} {job : JobConfig} :
      config.jobs = before ++ job :: after → (∀ k ∈ before, s.CanExpand k) →
      NamesDiffer (s.expansions { config with jobs := before } now) →
      job.runType = .runOnAllAgents → s.matching job.resources = [] →
      RefusesStage s config now (.noMatchingAgents job.name config.name)
  /-- An instance of a job has the name of an instance of a job before it; the first such
  instance is told. -/
  | nameTaken {before after : List JobConfig} {job : JobConfig} {first last : List JobInstance}
      {j k : JobInstance} : config.jobs = before ++ job :: after →
      (∀ k ∈ before, s.CanExpand k) → s.CanExpand job →
      s.expansions { config with jobs := [job] } now = first ++ j :: last →
      NamesDiffer (s.expansions { config with jobs := before } now ++ first) →
      k ∈ s.expansions { config with jobs := before } now →
      Text.sameName k.name j.name = true →
      RefusesStage s config now (.duplicateJob j.name)

theorem addJob_eq_error {jobs : Jobs} {failure : Failure} :
    s.addJob stageName now jobs job = .error failure ↔
      ¬ s.CanExpand job ∧ failure = .noMatchingAgents job.name stageName ∨
        s.CanExpand job ∧ jobs.appended (s.expansion stageName now job) = .error failure := by
  by_cases h : s.CanExpand job
  · rw [addJob_eq h]
    simp only [h, not_true_eq_false, false_and, false_or, true_and]
  · rw [addJob_eq_of_not h]
    simp only [h, not_false_eq_true, true_and, false_and, or_false, Except.error.injEq]
    exact eq_comm

/-- Instantiation fails as the first job does that has no agent, or an instance of which
has the name of an instance before it. -/
theorem instantiate_eq_error {config : StageConfig} {configVersion : String}
    {failure : Failure} : s.instantiate config configVersion now = .error failure ↔
      s.RefusesStage config now failure := by
  have hnil : NamesDiffer Jobs.empty.members := .nil
  have hexpansion (job : JobConfig) : s.expansions { config with jobs := [job] } now =
      (s.withVariables config.environment).expansion config.name now job := List.flatMap_singleton ..
  have hfold : s.instantiate config configVersion now = .error failure ↔
      config.jobs.foldlM ((s.withVariables config.environment).addJob config.name now) .empty =
        .error failure := by
    unfold instantiate
    rw [Outcome.bind_eq_error]
    exact or_iff_left fun ⟨_, _, h⟩ => nomatch h
  rw [hfold, Outcome.foldlM_eq_error]
  constructor
  · rintro ⟨before, job, after, jobs, hjobs, hbefore, hjob⟩
    obtain ⟨hcan, rfl, hd⟩ := (foldlM_addJob_eq_ok hnil).mp hbefore
    obtain ⟨hnot, rfl⟩ | ⟨hc, happend⟩ := addJob_eq_error.mp hjob
    · obtain ⟨hr, hnone⟩ := Classical.not_imp.mp hnot
      exact .noAgent hjobs hcan hd hr (not_not.mp hnone)
    · obtain ⟨first, j, last, hsplit, hfirst, ⟨k, hk, hs⟩, rfl⟩ :=
        (Jobs.appended_eq_error hd).mp happend
      -- the names of the job's own instances differ, so the name is of an earlier job
      have hown : NamesDiffer
          ((s.withVariables config.environment).expansion config.name now job) :=
        namesDiffer_expansion
      rw [hsplit] at hown
      have hearlier : k ∉ first := fun hk => by
        have := (List.pairwise_append.mp hown).2.2 k hk j List.mem_cons_self
        rw [JobInstance.NameDiffers, hs] at this
        cases this
      exact .nameTaken hjobs hcan hc ((hexpansion job).trans hsplit) hfirst
        ((List.mem_append.mp hk).resolve_right hearlier) hs
  · intro h
    cases h with
    | @noAgent before after job hjobs hcan hd hr hnone =>
      exact ⟨before, job, after, _, hjobs, (foldlM_addJob_eq_ok hnil).mpr ⟨hcan, rfl, hd⟩,
        addJob_eq_error.mpr (.inl ⟨fun hc => hc hr hnone, rfl⟩)⟩
    | @nameTaken before after job first last j k hjobs hcan hc hsplit hfirst hk hs =>
      have hd := (List.pairwise_append.mp hfirst).1
      refine ⟨before, job, after, _, hjobs, (foldlM_addJob_eq_ok hnil).mpr ⟨hcan, rfl, hd⟩,
        addJob_eq_error.mpr (.inr ⟨hc, (Jobs.appended_eq_error hd).mpr ?_⟩)⟩
      exact ⟨first, j, last, (hexpansion job).symm.trans hsplit, hfirst,
        ⟨k, List.mem_append_left _ hk, hs⟩, rfl⟩

/-- Stages and failures of instantiation: the expansion of each job, of which none fails
over its own names; a stage exactly if each job finds its agents and all names differ, and
then the expansions in order, all fresh; otherwise the failure of the first job that
decides. -/
theorem instantiate_outcome (s : Scheduling) (config : StageConfig) (configVersion : String)
    (now : Instant) :
    (∀ stageName job,
      (s.CanExpand job ∧
          s.jobInstances stageName job now = .ok ⟨s.expansion stageName now job⟩ ∨
        ¬ s.CanExpand job ∧
          s.jobInstances stageName job now = .error (.noMatchingAgents job.name stageName)) ∧
      (s.expansion stageName now job).map (fun j => (j.name, j.agent)) =
        job.places (s.matching job.resources)) ∧
    (∀ (way : Expansion) stageName job plan name,
      way.jobs stageName job plan s now ≠ .error (.duplicateJob name)) ∧
    ((∃ stage, s.instantiate config configVersion now = .ok stage) ↔
      (∀ job ∈ config.jobs, s.CanExpand job) ∧ NamesDiffer (s.expansions config now)) ∧
    (∀ stage, s.instantiate config configVersion now = .ok stage →
      stage.jobs.members = s.expansions config now ∧
        ∀ j ∈ stage.jobs.members, j.IsFresh now) ∧
    (∀ failure, s.instantiate config configVersion now = .error failure ↔
      s.RefusesStage config now failure) := by
  refine ⟨fun stageName job => ⟨?_, map_expansion⟩,
    fun way stageName job plan name => Expansion.jobs_ne_duplicateJob name, ?_,
    fun stage hstage => ?_, fun failure => instantiate_eq_error⟩
  · by_cases h : s.CanExpand job
    · exact .inl ⟨h, jobInstances_eq h⟩
    · exact .inr ⟨h, jobInstances_eq_of_not h⟩
  · simp only [instantiate_eq_ok, exists_and_left, exists_eq, and_true]
  · obtain ⟨-, -, rfl⟩ := instantiate_eq_ok.mp hstage
    refine ⟨rfl, fun j hj => ?_⟩
    obtain ⟨job, -, hj⟩ := List.mem_flatMap.mp hj
    exact isFresh_of_mem_expansion hj

/-- The second instance of a job for two agents has the name of the job after it. -/
example : twoAgents.instantiate
    { name := "test"
      jobs := [{ name := "a", runOnAllAgents := true }, { name := "A-runOnAll-2" }] }
    "1" ⟨0, 0⟩ = .error (.duplicateJob "A-runOnAll-2") := by
  decide +kernel

/-! ### Names that do not collide -/

/-- The instances of jobs with different names have different names, if no job that runs
once has a name that ends in an index. -/
theorem namesDiffer_expansions {config : StageConfig}
    (hdiffer : config.jobs.Pairwise fun a b => Text.sameName a.name b.name = false)
    (hsingle : ∀ job ∈ config.jobs, job.runType = .single → ¬ EndsInIndex job.name) :
    NamesDiffer (s.expansions config now) := by
  rw [NamesDiffer, expansions, List.pairwise_flatMap]
  refine ⟨fun job _ => namesDiffer_expansion, ?_⟩
  refine hdiffer.imp_of_mem fun {x y} hx hy hxy a ha b hb => Bool.eq_false_iff.mpr fun hab => ?_
  obtain ⟨i, hi⟩ := exists_fills ha
  obtain ⟨k, hk⟩ := exists_fills hb
  have hsame := (hi.named.eq_of_sameName hk.named (hsingle x hx) (hsingle y hy) hab).1
  rw [hxy] at hsame
  cases hsame

/-- A stage of such jobs is never refused for a name that is taken. -/
theorem instantiate_ne_duplicateJob (s : Scheduling) {config : StageConfig}
    (hdiffer : config.jobs.Pairwise fun a b => Text.sameName a.name b.name = false)
    (hsingle : ∀ job ∈ config.jobs, job.runType = .single → ¬ EndsInIndex job.name)
    (configVersion : String) (now : Instant) (name : String) :
    s.instantiate config configVersion now ≠ .error (.duplicateJob name) := by
  have hall : NamesDiffer (s.expansions config now) := namesDiffer_expansions hdiffer hsingle
  intro h
  rw [instantiate_eq_error] at h
  cases h with
  | @nameTaken before after job first last j k hjobs _ _ hsplit _ hk hs =>
    have hcross : k.NameDiffers j := by
      rw [expansions, hjobs, List.flatMap_append, List.flatMap_cons] at hall
      refine (List.pairwise_append.mp hall).2.2 k hk j (List.mem_append_left _ ?_)
      have hj : j ∈ s.expansions { config with jobs := [job] } now := by simp [hsplit]
      simpa [expansions] using hj
    rw [JobInstance.NameDiffers, hs] at hcross
    cases hcross

/-- Names that hold a marker or overlap with one. -/
def namesWithMarkers : StageConfig where
  name := "test"
  jobs := [
    { name := "a", runOnAllAgents := true },
    { name := "a-runOnAll" },
    { name := "A-RunOnAll-1", runOnAllAgents := true },
    { name := "-runInstance-" },
    { name := "a-runOnAll-", runInstanceCount := some 2 },
    { name := "a-runOnAll1" }]

theorem instantiate_namesWithMarkers :
    (namesWithMarkers.jobs.Pairwise fun a b => Text.sameName a.name b.name = false) ∧
    (∀ job ∈ namesWithMarkers.jobs, job.runType = .single → ¬ EndsInIndex job.name) ∧
    ∀ name, twoAgents.instantiate namesWithMarkers "1" ⟨0, 0⟩ ≠ .error (.duplicateJob name) := by
  have hdiffer : namesWithMarkers.jobs.Pairwise fun a b => Text.sameName a.name b.name = false := by
    decide +kernel
  have hsingle : ∀ job ∈ namesWithMarkers.jobs, job.runType = .single → ¬ EndsInIndex job.name := by
    decide +kernel
  exact ⟨hdiffer, hsingle, twoAgents.instantiate_ne_duplicateJob hdiffer hsingle "1" ⟨0, 0⟩⟩

end Scheduling
end StageRuns
