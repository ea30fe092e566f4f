/-
# What takes the place of a group

`RerunGroup.Renewal` lists the four ways in which the instances of a group are
made anew, each with its condition; a group is replaced exactly if one of them
applies to the job that is configured now. Whatever the way, the new instances
are scheduled ones and marked as a rerun (`JobInstance.ScheduledAt`).

Key definitions: `JobInstance.ScheduledAt`, `RerunGroup.Renewal`.
Key theorems: `RerunGroup.freshInstances_eq_ok`,
`RerunGroup.replacement_eq_ok`, `RerunGroup.Renewal.scheduledAt`,
`RerunGroup.Renewal.length_le`.
-/
import StageRuns.Rerun.Replacement
import StageRuns.Proofs.Instantiation
import StageRuns.Proofs.Lists
import StageRuns.Proofs.Rerun.Selection

namespace StageRuns

/-- The instance was scheduled at the time to run a job again, and nothing
happened to it since. -/
structure JobInstance.ScheduledAt (now : Instant) (job : JobInstance) : Prop where
  origin : job.origin = .rerun
  state : job.state = .scheduled
  result : job.result = .unknown
  id : job.id = .unsaved
  transitions : job.transitions = [⟨.unsaved, .scheduled, now⟩]
  scheduledDate : job.scheduledDate = now
  buildId : job.plan.identifier.buildId = .unsaved
  jobName : job.plan.identifier.jobName = job.name

theorem JobInstance.ScheduledAt.isRerun {job : JobInstance} {now : Instant}
    (h : job.ScheduledAt now) : job.isRerun = true := by
  rw [JobInstance.isRerun, h.origin]
  rfl

/-- An instance as it is created, perhaps bound to an agent, is a scheduled one
once it is marked as a rerun. -/
theorem JobInstance.scheduledAt_create (name : String) (plan : JobPlan) (runType : RunType)
    (now : Instant) (agent : Option AgentId) :
    ({ create name plan runType now with agent }.markAsRerun).ScheduledAt now :=
  ⟨rfl, rfl, rfl, rfl, rfl, rfl, rfl, rfl⟩

namespace RerunGroup

variable {g : RerunGroup} {old : Stage} {job : JobConfig} {s : Scheduling} {now : Instant}
  {fresh : List JobInstance}

/-! ### Busy and free agents -/

theorem mem_agentSiblings {k : JobInstance} : k ∈ g.agentSiblings old ↔
    k ∈ old.jobs.members ∧ k.runType = .runOnAllAgents ∧
      Text.sameName k.baseName g.base = true := by
  rw [agentSiblings, List.mem_filter, Bool.and_eq_true, JobInstance.isRunOnAllAgents, beq_iff_eq]

theorem mem_busyAgents {id : AgentId} : id ∈ g.busyAgents old ↔
    ∃ k ∈ g.agentSiblings old, g.has k = false ∧ k.agent = some id := by
  simp only [busyAgents, List.mem_filterMap, List.mem_filter, Bool.not_eq_true', and_assoc]

theorem mem_freeAgents {agent : Agent} : agent ∈ g.freeAgents old job s ↔
    agent ∈ s.matching job.resources ∧ agent.id ∉ g.busyAgents old := by
  simp [freeAgents]

theorem has_of_mem {m : JobInstance} (h : m ∈ g.members) : g.has m = true :=
  List.any_eq_true.mpr ⟨m, h, beq_self_eq_true _⟩

/-- A sibling has an index that is at most the highest one. -/
theorem le_highestIndex {k : JobInstance} {i : Nat} (hk : k ∈ g.agentSiblings old)
    (hi : k.index? = some i) : i ≤ g.highestIndex old :=
  (Lists.le_foldl_max _ 0).2 i (List.mem_filterMap.mpr ⟨k, hk, hi⟩)

/-! ### New instances -/

/-- The ways to make the instances of a group anew. -/
inductive Renewal (g : RerunGroup) (old : Stage) (job : JobConfig) (s : Scheduling)
    (now : Instant) : List JobInstance → Prop
  /-- A job that ran once runs once. -/
  | once : g.first.runType = .single → job.runType = .single →
      Renewal g old job s now [singleInstance g.base (s.jobPlan old.name job) now]
  /-- The only selected instance of a job that ran on all agents runs once, on
  the same agent. -/
  | onSameAgent : g.first.runType = .runOnAllAgents → job.runType = .single → g.others = [] →
      Renewal g old job s now
        [{ singleInstance g.base (s.jobPlan old.name job) now with agent := g.first.agent }]
  /-- A job that ran on all agents runs on those that are free. -/
  | onFreeAgents : g.first.runType = .runOnAllAgents → job.runType = .runOnAllAgents →
      g.freeAgents old job s ≠ [] →
      Renewal g old job s now
        (agentRow g.base (s.jobPlan old.name job) now (g.highestIndex old)
          (g.freeAgents old job s))
  /-- A job that ran a number of times runs again for each selected index. -/
  | atIndices : g.first.runType = .runMultipleInstance → job.runType = .runMultipleInstance →
      (∀ j ∈ g.members, j.index?.getD 1 ≤ job.runInstanceCount.getD 1) →
      Renewal g old job s now
        (g.members.map fun j => runInstance g.base (s.jobPlan old.name job) (j.index?.getD 1)
          (job.runInstanceCount.getD 1) now)

theorem onSameAgent_eq_ok {plan : JobPlan} {j : JobInstance} : g.onSameAgent plan now = .ok j ↔
    g.others = [] ∧ j = { singleInstance g.base plan now with agent := g.first.agent } := by
  unfold onSameAgent
  cases ho : g.others with
  | cons k ks => exact ⟨nofun, nofun⟩
  | nil =>
    cases ha : g.first.agent with
    | none => exact ⟨fun h => ⟨rfl, by cases h; rfl⟩, fun h => by rw [h.2]; rfl⟩
    | some a => exact ⟨fun h => ⟨rfl, by cases h; rfl⟩, fun h => by rw [h.2]; rfl⟩

theorem atSameIndex_eq_ok {plan : JobPlan} {count : Nat} {j k : JobInstance} :
    g.atSameIndex plan count now j = .ok k ↔
      j.index?.getD 1 ≤ count ∧ k = runInstance g.base plan (j.index?.getD 1) count now := by
  unfold atSameIndex
  by_cases h : count < j.index?.getD 1
  · simp only [if_pos h]
    exact ⟨nofun, fun hk => absurd hk.1 (Nat.not_le.mpr h)⟩
  · simp only [if_neg h]
    exact ⟨fun hk => ⟨Nat.not_lt.mp h, by cases hk; rfl⟩, fun hk => by rw [hk.2]⟩

theorem onSameAgent_eq_error {plan : JobPlan} {failure : Failure} :
    g.onSameAgent plan now = .error failure ↔ g.others ≠ [] ∧ failure =
      .invalidArgument ("Cannot schedule multiple instances of job named '" ++ g.base ++ "'.") := by
  unfold onSameAgent
  cases ho : g.others with
  | nil => exact ⟨nofun, fun h => absurd rfl h.1⟩
  | cons k ks => exact ⟨fun h => ⟨nofun, by cases h; rfl⟩, fun h => by rw [h.2]; rfl⟩

theorem atSameIndex_eq_error {plan : JobPlan} {count : Nat} {j : JobInstance} {failure : Failure} :
    g.atSameIndex plan count now j = .error failure ↔ count < j.index?.getD 1 ∧ failure =
      .cannotRerunJob j.name ("Run instance count for job has been changed to " ++
        String.ofList (Text.digitsOfNat count) ++ ".") := by
  unfold atSameIndex
  by_cases h : count < j.index?.getD 1
  · simp only [if_pos h]
    exact ⟨fun hf => ⟨h, by cases hf; rfl⟩, fun hf => by rw [hf.2]⟩
  · simp only [if_neg h]
    exact ⟨nofun, fun hf => absurd hf.1 h⟩

theorem mapM_atSameIndex_eq_ok {plan : JobPlan} {count : Nat} {js : List JobInstance} :
    js.mapM (g.atSameIndex plan count now) = .ok fresh ↔
      (∀ j ∈ js, j.index?.getD 1 ≤ count) ∧
        fresh = js.map fun j => runInstance g.base plan (j.index?.getD 1) count now :=
  Outcome.mapM_eq_ok_map fun _ _ => atSameIndex_eq_ok

/-- A group has new instances exactly in one of the four ways. -/
theorem freshInstances_eq_ok : g.freshInstances old job s now = .ok fresh ↔
    g.Renewal old job s now fresh := by
  constructor
  · intro h
    unfold freshInstances at h
    simp only at h
    split at h
    case h_1 hf hj => cases h; exact .once hf hj
    case h_2 hf hj =>
      obtain ⟨k, hk, rfl⟩ := Outcome.map_eq_ok.mp h
      obtain ⟨ho, rfl⟩ := onSameAgent_eq_ok.mp hk
      exact .onSameAgent hf hj ho
    case h_3 hf hj =>
      obtain ⟨hne, rfl⟩ := runOnAllInstances_eq_ok.mp h
      exact .onFreeAgents hf hj hne
    case h_4 hf hj =>
      obtain ⟨hle, rfl⟩ := mapM_atSameIndex_eq_ok.mp h
      exact .atIndices hf hj hle
    case h_5 => cases h
  · intro h
    unfold freshInstances
    cases h with
    | once hf hj => rw [hf, hj]
    | onSameAgent hf hj ho =>
      rw [hf, hj]
      exact Outcome.map_eq_ok.mpr ⟨_, onSameAgent_eq_ok.mpr ⟨ho, rfl⟩, rfl⟩
    | onFreeAgents hf hj hne =>
      rw [hf, hj]
      exact runOnAllInstances_eq_ok.mpr ⟨hne, rfl⟩
    | atIndices hf hj hle =>
      rw [hf, hj]
      exact mapM_atSameIndex_eq_ok.mpr ⟨hle, rfl⟩

/-- A group is replaced exactly if its job is configured and one of the ways
applies. -/
theorem replacement_eq_ok {config : StageConfig} {r : Replacement} :
    g.replacement old config s now = .ok r ↔
      ∃ job fresh, config.job? g.base = some job ∧ g.Renewal old job s now fresh ∧
        r = ⟨g.base, fresh.map s.markRerun,
          g.first.runType == .runOnAllAgents && job.runType == .runOnAllAgents⟩ := by
  unfold replacement
  cases hc : config.job? g.base with
  | none => exact ⟨nofun, fun ⟨_, _, h, _⟩ => nomatch h⟩
  | some job =>
    simp only [Outcome.map_eq_ok, freshInstances_eq_ok]
    constructor
    · rintro ⟨fresh, hf, rfl⟩
      exact ⟨job, fresh, rfl, hf, rfl⟩
    · rintro ⟨_, fresh, h, hf, rfl⟩
      cases h
      exact ⟨fresh, hf, rfl⟩

namespace Renewal

/-- New instances are created as any other, but perhaps bound to an agent, with
the run type that is configured now. -/
theorem exists_create (h : g.Renewal old job s now fresh) {j : JobInstance} (hj : j ∈ fresh) :
    ∃ name plan agent, j = { JobInstance.create name plan job.runType now with agent } := by
  cases h with
  | once _ hr =>
    rw [List.mem_singleton.mp hj, hr]
    exact ⟨_, _, none, rfl⟩
  | onSameAgent _ hr =>
    rw [List.mem_singleton.mp hj, hr]
    exact ⟨_, _, _, rfl⟩
  | onFreeAgents _ hr =>
    obtain ⟨_, _, a, _, rfl⟩ := mem_agentRow hj
    rw [hr]
    exact ⟨_, _, some a.id, rfl⟩
  | atIndices _ hr =>
    obtain ⟨_, _, rfl⟩ := List.mem_map.mp hj
    rw [hr]
    exact ⟨_, _, none, rfl⟩

theorem scheduledAt (h : g.Renewal old job s now fresh) {j : JobInstance} (hj : j ∈ fresh) :
    (j.markAsRerun).ScheduledAt now := by
  obtain ⟨name, plan, agent, rfl⟩ := h.exists_create hj
  exact JobInstance.scheduledAt_create name plan job.runType now agent

theorem runType_eq (h : g.Renewal old job s now fresh) {j : JobInstance} (hj : j ∈ fresh) :
    j.runType = job.runType := by
  obtain ⟨_, _, _, rfl⟩ := h.exists_create hj
  rfl

theorem ne_nil (h : g.Renewal old job s now fresh) : fresh ≠ [] := by
  cases h with
  | once | onSameAgent => exact List.cons_ne_nil _ _
  | onFreeAgents _ _ hne =>
    obtain ⟨agent, rest, ha⟩ := List.exists_cons_of_ne_nil hne
    rw [ha, agentRow]
    exact List.cons_ne_nil _ _
  | atIndices => exact List.cons_ne_nil _ _

/-- A job runs a number of times now exactly if it did so before. -/
theorem first_runType_iff (h : g.Renewal old job s now fresh) :
    g.first.runType = .runMultipleInstance ↔ job.runType = .runMultipleInstance := by
  cases h with
  | once hf hr | onFreeAgents hf hr | atIndices hf hr => rw [hf, hr]
  | onSameAgent hf hr =>
    rw [hf, hr]
    decide

/-- A job that runs once now gives its name to its instance. -/
theorem name_eq (h : g.Renewal old job s now fresh) {j : JobInstance} (hj : j ∈ fresh)
    (hr : job.runType = .single) : j.name = g.base := by
  cases h with
  | once | onSameAgent =>
    rw [List.mem_singleton.mp hj]
    rfl
  | onFreeAgents _ hr' | atIndices _ hr' =>
    rw [hr] at hr'
    cases hr'

/-- A job that runs on all agents now gives a free agent to each instance. -/
theorem exists_agent (h : g.Renewal old job s now fresh) {j : JobInstance} (hj : j ∈ fresh)
    (hr : job.runType = .runOnAllAgents) :
    ∃ agent ∈ g.freeAgents old job s, j.agent = some agent.id := by
  cases h with
  | once _ hr' | onSameAgent _ hr' | atIndices _ hr' =>
    rw [hr] at hr'
    cases hr'
  | onFreeAgents =>
    obtain ⟨_, _, agent, ha, rfl⟩ := mem_agentRow hj
    exact ⟨agent, ha, rfl⟩

/-- New instances for all agents are bound to different ones, if no agent is
listed twice. -/
theorem pairwise_agent (h : g.Renewal old job s now fresh) (hpool : IdsDiffer s.agents.members) :
    fresh.Pairwise fun a b => a.runType = .runOnAllAgents → a.agent ≠ b.agent := by
  cases h with
  | once | onSameAgent => exact List.pairwise_singleton ..
  | onFreeAgents =>
    have hfree : IdsDiffer (g.freeAgents old job s) :=
      List.Pairwise.filter _ (Agents.idsDiffer_matching hpool _)
    refine (pairwise_agent_agentRow _ _ _ _ hfree).imp fun {a b} hne => ?_
    exact fun _ => hne
  | atIndices =>
    rw [List.pairwise_map]
    exact List.pairwise_of_forall fun _ _ hr => RunType.noConfusion hr

/-- Other jobs name their instances by index; those of a configured number keep
an index that was read from a name. -/
theorem exists_index (h : g.Renewal old job s now fresh) {j : JobInstance} (hj : j ∈ fresh)
    (hr : job.runType ≠ .single) : ∃ k, j.name = instanceName g.base job.runType k ∧
      (job.runType = .runMultipleInstance → k < InstanceName.indexLimit) := by
  cases h with
  | once _ hr' | onSameAgent _ hr' => exact absurd hr' hr
  | onFreeAgents _ hr' =>
    obtain ⟨k, _, _, _, rfl⟩ := mem_agentRow hj
    rw [hr']
    exact ⟨k, rfl, nofun⟩
  | atIndices _ hr' =>
    obtain ⟨k, _, rfl⟩ := List.mem_map.mp hj
    rw [hr']
    exact ⟨_, rfl, fun _ => k.index?_getD_lt⟩

/-- Apart from blocks for agents, there are no more new instances than
selected ones. -/
theorem length_le (h : g.Renewal old job s now fresh)
    (hb : (g.first.runType == .runOnAllAgents && job.runType == .runOnAllAgents) = false) :
    fresh.length ≤ g.members.length := by
  cases h with
  | once => simp [members]
  | onSameAgent => simp [members]
  | onFreeAgents hf hj => simp [hf, hj] at hb
  | atIndices => rw [List.length_map]

end Renewal
end RerunGroup
end StageRuns
