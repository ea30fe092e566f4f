/-
# What instantiation makes

A stage is instantiated exactly if every job that runs on all agents finds one
and no two instances of its jobs have the same name. Its instances are then
those of its jobs, in the order of the configuration. The instances of one job
have different names anyway, as their indices differ.

Key definitions: `agentRow`, `Scheduling.expansion`, `Scheduling.CanExpand`,
`Scheduling.Expands`, `Expansion.row`, `Scheduling.freshStage`.
Key theorems: `Scheduling.expands_of_mem`, `Expansion.namesDiffer_row`,
`Expansion.jobs_eq`, `Scheduling.jobInstances_eq`, `Scheduling.instantiate_eq_ok`.
-/
import StageRuns.Instantiation
import StageRuns.Proofs.Agents
import StageRuns.Proofs.Collection

namespace StageRuns

/-- The instances of a job for agents, with the indices that follow `last`. -/
def agentRow (base : String) (plan : JobPlan) (now : Instant) : Nat → List Agent → List JobInstance
  | _, [] => []
  | last, agent :: rest =>
    agentInstance plan now (instanceName base .runOnAllAgents (last + 1)) agent ::
      agentRow base plan now (last + 1) rest

theorem zipWith_take (base : String) (plan : JobPlan) (now : Instant) :
    ∀ (last : Nat) (agents : List Agent),
      ((Numbering.take ⟨base, .runOnAllAgents, last⟩ agents.length).1.zipWith
        (agentInstance plan now) agents) = agentRow base plan now last agents
  | _, [] => rfl
  | last, agent :: rest => by
    rw [agentRow, ← zipWith_take base plan now (last + 1) rest]
    rfl

theorem runOnAllInstances_eq_ok {stageName jobName base : String} {plan : JobPlan} {last : Nat}
    {agents : List Agent} {now : Instant} {js : List JobInstance} :
    (runOnAllInstances stageName jobName plan agents ⟨base, .runOnAllAgents, last⟩ now).map (·.1) =
      .ok js ↔ agents ≠ [] ∧ js = agentRow base plan now last agents := by
  rw [runOnAllInstances, ← zipWith_take]
  cases agents with
  | nil => exact ⟨nofun, fun h => absurd rfl h.1⟩
  | cons agent rest => exact ⟨fun h => ⟨nofun, by cases h; rfl⟩, fun h => by rw [h.2]; rfl⟩

/-- An instance of a row has an index after `last` and one of the agents. -/
theorem mem_agentRow {base : String} {plan : JobPlan} {now : Instant} {j : JobInstance} :
    ∀ {last : Nat} {agents : List Agent}, j ∈ agentRow base plan now last agents →
      ∃ k, last < k ∧ ∃ agent ∈ agents,
        j = agentInstance plan now (instanceName base .runOnAllAgents k) agent
  | last, agent :: rest, h => by
    rcases List.mem_cons.mp h with rfl | h
    · exact ⟨last + 1, Nat.lt_succ_self last, agent, List.mem_cons_self, rfl⟩
    · obtain ⟨k, hk, a, ha, e⟩ := mem_agentRow h
      exact ⟨k, by omega, a, List.mem_cons_of_mem _ ha, e⟩

/-- There is an instance for each of the agents. -/
theorem exists_mem_agentRow {base : String} {plan : JobPlan} {now : Instant} {agent : Agent} :
    ∀ {last : Nat} {agents : List Agent}, agent ∈ agents →
      ∃ j ∈ agentRow base plan now last agents, j.agent = some agent.id
  | last, a :: rest, h => by
    rcases List.mem_cons.mp h with rfl | h
    · exact ⟨_, List.mem_cons_self, rfl⟩
    · obtain ⟨j, hj, ha⟩ := exists_mem_agentRow h
      exact ⟨j, List.mem_cons_of_mem _ hj, ha⟩

/-- What is read off the instances of a row, each by the place of its agent. -/
theorem map_agentRow {α : Type} (f : JobInstance → α) (base : String) (plan : JobPlan)
    (now : Instant) : ∀ (last : Nat) (agents : List Agent),
    (agentRow base plan now last agents).map f = agents.mapIdx fun i agent =>
      f (agentInstance plan now (instanceName base .runOnAllAgents (last + (i + 1))) agent)
  | _, [] => rfl
  | last, agent :: rest => by
    rw [agentRow, List.map_cons, map_agentRow f base plan now (last + 1) rest, List.mapIdx_cons]
    congr 2
    funext i a
    rw [show last + 1 + (i + 1) = last + (i + 1 + 1) by omega]

/-- The indices in a row have 32 bits if the last one does. -/
theorem indexFits_of_mem_agentRow {base : String} {plan : JobPlan} {now : Instant}
    {j : JobInstance} : ∀ {last : Nat} {agents : List Agent},
      last + agents.length < InstanceName.indexLimit → j ∈ agentRow base plan now last agents →
        j.IndexFits
  | last, agent :: rest, h, hj => by
    rw [List.length_cons] at h
    rcases List.mem_cons.mp hj with rfl | hj
    · have hlt : last + 1 < InstanceName.indexLimit := by omega
      exact JobInstance.indexFits_of_name nofun rfl hlt
    · exact indexFits_of_mem_agentRow (by omega) hj

/-- The names in a row differ. -/
theorem namesDiffer_agentRow (base : String) (plan : JobPlan) (now : Instant) :
    ∀ (last : Nat) (agents : List Agent), NamesDiffer (agentRow base plan now last agents)
  | _, [] => .nil
  | last, agent :: rest => by
    refine List.pairwise_cons.mpr ⟨fun j hj => ?_, namesDiffer_agentRow base plan now _ rest⟩
    obtain ⟨k, hk, a, _, rfl⟩ := mem_agentRow hj
    refine Bool.eq_false_iff.mpr fun hs => ?_
    have hr : RunType.runOnAllAgents ≠ .single := nofun
    have := (sameName_instanceName hr hr hs).2.1
    omega

/-- The agents in a row differ if those of the pool do. -/
theorem pairwise_agent_agentRow (base : String) (plan : JobPlan) (now : Instant) :
    ∀ (last : Nat) {agents : List Agent}, IdsDiffer agents →
      (agentRow base plan now last agents).Pairwise fun a b => a.agent ≠ b.agent
  | _, [], _ => .nil
  | last, agent :: rest, h => by
    obtain ⟨hfirst, hrest⟩ := List.pairwise_cons.mp h
    refine List.pairwise_cons.mpr ⟨fun j hj => ?_, pairwise_agent_agentRow base plan now _ hrest⟩
    obtain ⟨_, _, a, ha, rfl⟩ := mem_agentRow hj
    exact fun he => hfirst a ha (Option.some.inj he)

theorem runOnAllInstances_eq_error {stageName jobName base : String} {plan : JobPlan} {last : Nat}
    {agents : List Agent} {now : Instant} {failure : Failure} :
    (runOnAllInstances stageName jobName plan agents ⟨base, .runOnAllAgents, last⟩ now).map (·.1) =
      .error failure ↔ agents = [] ∧ failure = .noMatchingAgents jobName stageName := by
  rw [runOnAllInstances]
  cases agents with
  | nil => exact ⟨fun h => ⟨rfl, by cases h; rfl⟩, fun h => by rw [h.2]; rfl⟩
  | cons agent rest => exact ⟨nofun, nofun⟩

/-- A job that runs a number of times is configured with one, which is not
zero. -/
theorem JobConfig.exists_runInstanceCount {job : JobConfig}
    (h : job.runType = .runMultipleInstance) : ∃ n, job.runInstanceCount = some (n + 1) := by
  unfold runType at h
  split at h
  · cases h
  · split at h
    case h_1 n hn => exact ⟨n, hn⟩
    case h_2 => cases h

theorem JobConfig.runInstanceCount_pos (job : JobConfig) (h : job.runType = .runMultipleInstance) :
    0 < job.runInstanceCount.getD 1 := by
  obtain ⟨n, hn⟩ := exists_runInstanceCount h
  rw [hn]
  exact Nat.succ_pos n

/-- The run type and the configured number select the way. -/
theorem Expansion.ofConfig_eq (job : JobConfig) : ofConfig job =
    match job.runType with
    | .single => .single
    | .runOnAllAgents => .runOnAllAgents
    | .runMultipleInstance => .runMultiple (job.runInstanceCount.getD 1) := by
  unfold ofConfig JobConfig.runType
  by_cases h : job.runOnAllAgents = true
  · rw [if_pos h, if_pos h]
  · rw [if_neg h, if_neg h]
    split <;> rename_i hn <;> simp [hn]

namespace Scheduling

/-- Is there an agent if the job needs one? -/
def CanExpand (s : Scheduling) (job : JobConfig) : Prop :=
  job.runType = .runOnAllAgents → s.matching job.resources ≠ []

/-- The instances that a job has in these surroundings. -/
def expansion (s : Scheduling) (stageName : String) (now : Instant) (job : JobConfig) :
    List JobInstance :=
  let plan := s.jobPlan stageName job
  match Expansion.ofConfig job with
  | .single => [singleInstance job.name plan now]
  | .runOnAllAgents => agentRow job.name plan now 0 (s.matching job.resources)
  | .runMultiple count =>
    (List.range count).map fun i => runInstance job.name plan (i + 1) count now

section Expansion

variable {s : Scheduling} {stageName : String} {now : Instant} {job : JobConfig}

theorem expansion_of_single (h : job.runType = .single) : s.expansion stageName now job =
    [singleInstance job.name (s.jobPlan stageName job) now] := by
  rw [expansion, Expansion.ofConfig_eq, h]

theorem expansion_of_runOnAllAgents (h : job.runType = .runOnAllAgents) :
    s.expansion stageName now job =
      agentRow job.name (s.jobPlan stageName job) now 0 (s.matching job.resources) := by
  rw [expansion, Expansion.ofConfig_eq, h]

theorem expansion_of_runMultiple (h : job.runType = .runMultipleInstance) :
    s.expansion stageName now job = (List.range (job.runInstanceCount.getD 1)).map fun i =>
      runInstance job.name (s.jobPlan stageName job) (i + 1) (job.runInstanceCount.getD 1) now := by
  rw [expansion, Expansion.ofConfig_eq, h]

/-- How an instance is made of a job: once, for an agent that matches, or for an index up
to the configured number. -/
inductive Expands (s : Scheduling) (stageName : String) (now : Instant) (job : JobConfig) :
    JobInstance → Prop
  | once : job.runType = .single →
      Expands s stageName now job (singleInstance job.name (s.jobPlan stageName job) now)
  | onAgent {k : Nat} {agent : Agent} : job.runType = .runOnAllAgents → 0 < k →
      agent ∈ s.matching job.resources →
      Expands s stageName now job (agentInstance (s.jobPlan stageName job) now
        (instanceName job.name .runOnAllAgents k) agent)
  | atIndex {i : Nat} : job.runType = .runMultipleInstance → i < job.runInstanceCount.getD 1 →
      Expands s stageName now job (runInstance job.name (s.jobPlan stageName job) (i + 1)
        (job.runInstanceCount.getD 1) now)

theorem expands_of_mem {j : JobInstance} (hj : j ∈ s.expansion stageName now job) :
    s.Expands stageName now job j := by
  cases hr : job.runType with
  | single =>
    rw [expansion_of_single hr] at hj
    rw [List.mem_singleton.mp hj]
    exact .once hr
  | runOnAllAgents =>
    rw [expansion_of_runOnAllAgents hr] at hj
    obtain ⟨_, hk, _, ha, rfl⟩ := mem_agentRow hj
    exact .onAgent hr hk ha
  | runMultipleInstance =>
    rw [expansion_of_runMultiple hr] at hj
    obtain ⟨_, hi, rfl⟩ := List.mem_map.mp hj
    exact .atIndex hr (List.mem_range.mp hi)

/-- Instances are created alike, but perhaps bound to an agent. -/
theorem exists_create {j : JobInstance} (hj : j ∈ s.expansion stageName now job) :
    ∃ name plan runType agent,
      j = { JobInstance.create name plan runType now with agent } := by
  cases expands_of_mem hj with
  | once _ => exact ⟨_, _, _, none, rfl⟩
  | @onAgent _ agent _ _ _ => exact ⟨_, _, _, some agent.id, rfl⟩
  | atIndex _ _ => exact ⟨_, _, _, none, rfl⟩

end Expansion

end Scheduling

namespace Expansion

/-- The instances of a job in a given way and with a given plan. -/
def row (way : Expansion) (job : JobConfig) (plan : JobPlan) (s : Scheduling) (now : Instant) :
    List JobInstance :=
  match way with
  | single => [singleInstance job.name plan now]
  | runOnAllAgents => agentRow job.name plan now 0 (s.matching job.resources)
  | runMultiple count => (List.range count).map fun i =>
    runInstance job.name plan (i + 1) count now

variable {way : Expansion} {stageName : String} {job : JobConfig} {plan : JobPlan}
  {s : Scheduling} {now : Instant}

/-- The names of a row differ, as their indices do. -/
theorem namesDiffer_row : NamesDiffer (way.row job plan s now) := by
  cases way with
  | single => exact List.pairwise_singleton ..
  | runOnAllAgents => exact namesDiffer_agentRow _ _ _ _ _
  | runMultiple count =>
    rw [row, NamesDiffer, List.pairwise_map]
    refine List.pairwise_lt_range.imp fun {i k} hlt => Bool.eq_false_iff.mpr fun hs => ?_
    have hr : RunType.runMultipleInstance ≠ .single := by decide
    have hindex := (sameName_instanceName hr hr hs).2.1
    omega

/-- An expansion fails only for want of an agent. -/
theorem jobs_eq : way.jobs stageName job plan s now =
    if way = runOnAllAgents ∧ s.matching job.resources = [] then
      .error (.noMatchingAgents job.name stageName)
    else .ok ⟨way.row job plan s now⟩ := by
  have hadded : Jobs.ofList (way.row job plan s now) = .ok ⟨way.row job plan s now⟩ :=
    Jobs.ofList_eq_ok.mpr ⟨namesDiffer_row, rfl⟩
  unfold jobs
  cases way with
  | single | runMultiple =>
    rw [if_neg (by simp)]
    exact hadded
  | runOnAllAgents =>
    rw [instances]
    by_cases hnone : s.matching job.resources = []
    · rw [if_pos ⟨rfl, hnone⟩, runOnAllInstances_eq_error.mpr ⟨hnone, rfl⟩]
      rfl
    · rw [if_neg (by simp [hnone]), runOnAllInstances_eq_ok.mpr ⟨hnone, rfl⟩]
      exact hadded

theorem jobs_ne_duplicateJob (name : String) :
    way.jobs stageName job plan s now ≠ .error (.duplicateJob name) := by
  rw [jobs_eq]
  split <;> simp

end Expansion

namespace Scheduling

section OneJob

variable {s : Scheduling} {stageName : String} {now : Instant} {job : JobConfig}

theorem namesDiffer_expansion : NamesDiffer (s.expansion stageName now job) :=
  Expansion.namesDiffer_row

/-- The instances of a job are its expansion, if it can be expanded. -/
theorem jobInstances_eq (h : s.CanExpand job) :
    s.jobInstances stageName job now = .ok ⟨s.expansion stageName now job⟩ := by
  have hagent : ¬ (Expansion.ofConfig job = .runOnAllAgents ∧ s.matching job.resources = []) := by
    rintro ⟨hway, hnone⟩
    rw [Expansion.ofConfig_eq] at hway
    cases hr : job.runType with
    | single | runMultipleInstance =>
      rw [hr] at hway
      cases hway
    | runOnAllAgents => exact h hr hnone
  rw [jobInstances, Expansion.jobs_eq, if_neg hagent]
  rfl

theorem jobInstances_eq_of_not (h : ¬ s.CanExpand job) :
    s.jobInstances stageName job now = .error (.noMatchingAgents job.name stageName) := by
  rw [CanExpand, not_forall] at h
  obtain ⟨hr, hnone⟩ := h
  have hway : Expansion.ofConfig job = .runOnAllAgents := by
    rw [Expansion.ofConfig_eq, hr]
  rw [jobInstances, Expansion.jobs_eq, if_pos ⟨hway, not_not.mp hnone⟩]

end OneJob

/-- A stage as instantiation makes it, with the instances it is to have. -/
def freshStage (s : Scheduling) (config : StageConfig) (configVersion : String) (now : Instant)
    (jobs : List JobInstance) : Stage where
  name := config.name
  jobs := ⟨jobs⟩
  approvalType := config.approval
  approvedBy := s.approvedBy
  configVersion
  fetchMaterials := config.fetchMaterials
  cleanWorkingDir := config.cleanWorkingDir
  createdTime := now

/-- The instances of all jobs of a configuration, in its order. -/
def expansions (s : Scheduling) (config : StageConfig) (now : Instant) : List JobInstance :=
  config.jobs.flatMap ((s.withVariables config.environment).expansion config.name now)

variable {s : Scheduling} {stageName : String} {now : Instant}

/-- The instances of one more job are its expansion, if it can be expanded. -/
theorem addJob_eq {jobs : Jobs} {job : JobConfig} (h : s.CanExpand job) :
    s.addJob stageName now jobs job = jobs.appended (s.expansion stageName now job) := by
  rw [addJob, jobInstances_eq h]
  rfl

theorem addJob_eq_of_not {jobs : Jobs} {job : JobConfig} (h : ¬ s.CanExpand job) :
    s.addJob stageName now jobs job = .error (.noMatchingAgents job.name stageName) := by
  rw [addJob, jobInstances_eq_of_not h]
  rfl

theorem addJob_eq_ok {jobs all : Jobs} {job : JobConfig} :
    s.addJob stageName now jobs job = .ok all ↔
      s.CanExpand job ∧ jobs.appended (s.expansion stageName now job) = .ok all := by
  by_cases h : s.CanExpand job
  · rw [addJob_eq h, and_iff_right h]
  · rw [addJob_eq_of_not h]
    exact ⟨nofun, fun hc => absurd hc.1 h⟩

theorem foldlM_addJob_eq_ok : ∀ {configured : List JobConfig} {jobs all : Jobs},
    NamesDiffer jobs.members →
    (configured.foldlM (s.addJob stageName now) jobs = .ok all ↔
      (∀ job ∈ configured, s.CanExpand job) ∧
        all = ⟨jobs.members ++ configured.flatMap (s.expansion stageName now)⟩ ∧
          NamesDiffer all.members)
  | [], jobs, _, hj => by
    rw [List.foldlM_nil, List.flatMap_nil, List.append_nil]
    refine ⟨fun h => ⟨by simp, ?_, ?_⟩, fun ⟨_, h, _⟩ => by rw [h]; rfl⟩ <;> cases h
    · rfl
    · exact hj
  | job :: configured, jobs, _, hj => by
    have hd : NamesDiffer (s.expansion stageName now job) := namesDiffer_expansion
    rw [List.foldlM_cons, Outcome.bind_eq_ok, List.flatMap_cons, List.forall_mem_cons]
    constructor
    · rintro ⟨next, hadd, hrest⟩
      obtain ⟨hc, ha⟩ := addJob_eq_ok.mp hadd
      obtain ⟨⟨hcross, -⟩, rfl⟩ := Jobs.appended_eq_ok.mp ha
      have hnext : NamesDiffer (jobs.members ++ s.expansion stageName now job) :=
        List.pairwise_append.mpr ⟨hj, hd, hcross⟩
      obtain ⟨hcs, rfl, hall⟩ := (foldlM_addJob_eq_ok hnext).mp hrest
      exact ⟨⟨hc, hcs⟩, by simp, hall⟩
    · rintro ⟨⟨hc, hcs⟩, rfl, hall⟩
      have hall' := hall
      rw [← List.append_assoc] at hall
      have hnext := (List.pairwise_append.mp hall).1
      obtain ⟨-, -, hcross⟩ := List.pairwise_append.mp hnext
      refine ⟨⟨jobs.members ++ s.expansion stageName now job⟩,
        addJob_eq_ok.mpr ⟨hc, Jobs.appended_eq_ok.mpr ⟨⟨hcross, hd⟩, rfl⟩⟩,
        (foldlM_addJob_eq_ok hnext).mpr ⟨hcs, by simp, hall'⟩⟩

/-- A stage is instantiated exactly if its jobs can be expanded and the names of
all their instances differ. -/
theorem instantiate_eq_ok {config : StageConfig} {configVersion : String} {stage : Stage} :
    s.instantiate config configVersion now = .ok stage ↔
      (∀ job ∈ config.jobs, s.CanExpand job) ∧ NamesDiffer (s.expansions config now) ∧
        stage = s.freshStage config configVersion now (s.expansions config now) := by
  have hnil : NamesDiffer Jobs.empty.members := .nil
  unfold instantiate
  simp only [Outcome.bind_eq_ok]
  constructor
  · rintro ⟨jobs, hfold, h⟩
    obtain ⟨hc, rfl, hd⟩ := (foldlM_addJob_eq_ok hnil).mp hfold
    cases h
    exact ⟨hc, hd, rfl⟩
  · rintro ⟨hc, hd, rfl⟩
    exact ⟨_, (foldlM_addJob_eq_ok hnil).mpr ⟨hc, rfl, hd⟩, rfl⟩

end Scheduling

/-! ### A stage on two agents -/

/-- Surroundings with two agents. -/
def twoAgents : Scheduling where
  agents := ⟨[{ id := ⟨"u1"⟩ }, { id := ⟨"u2"⟩ }]⟩

/-- Job `a` runs on all agents and job `b` once. -/
def agentsAndOnce : StageConfig where
  name := "test"
  jobs := [{ name := "a", runOnAllAgents := true }, { name := "b" }]

/-- The run of both jobs on two agents. -/
def onTwoAgents : Stage :=
  twoAgents.freshStage agentsAndOnce "1" ⟨0, 0⟩ (twoAgents.expansions agentsAndOnce ⟨0, 0⟩)

theorem instantiate_agentsAndOnce :
    twoAgents.instantiate agentsAndOnce "1" ⟨0, 0⟩ = .ok onTwoAgents := by
  decide +kernel

theorem indexFits_onTwoAgents : ∀ j ∈ onTwoAgents.jobs.members, j.IndexFits := by
  have hshort : ∀ j ∈ onTwoAgents.jobs.members, j.name.length ≤ 19 := by decide +kernel
  exact fun j hj => JobInstance.indexFits_of_length_le (hshort j hj)

end StageRuns
