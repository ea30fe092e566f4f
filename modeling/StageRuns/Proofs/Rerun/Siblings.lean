/-
# The instances of one job for all agents

For the job of a base name: its instances for all agents, the highest of their
indices, and the agents that are left when those stay bound which belong to
instances that a request leaves alone. A group of selected instances looks at
just these (`RerunGroup.agentSiblings_eq`, `RerunGroup.freeAgents_eq`).

Key definitions: `Stage.onAgents`, `Stage.holders`, `Stage.topIndex`,
`Stage.IsHeld`, `Stage.agentsLeft`.
Key theorems: `RerunGroup.has_iff`, `RerunGroup.freeAgents_eq`,
`RerunGroup.highestIndex_eq`.
-/
import StageRuns.Proofs.Rerun.Stage

namespace StageRuns
namespace Stage

/-- The instances for all agents of the job of a base name. -/
def onAgents (stage : Stage) (base : String) : List JobInstance :=
  stage.jobs.members.filter fun j =>
    j.runType = .runOnAllAgents ∧ Text.sameName base j.baseName = true

/-- Those of them that are bound to an agent. -/
def holders (stage : Stage) (base : String) (agent : AgentId) : List JobInstance :=
  (stage.onAgents base).filter fun j => j.agent = some agent

/-- The highest of their indices, or 0 if none of them has one. -/
def topIndex (stage : Stage) (base : String) : Nat :=
  ((stage.onAgents base).filterMap (·.index?)).max?.getD 0

/-- An instance that the request leaves alone is bound to the agent. -/
def IsHeld (old : Stage) (request : List String) (base : String) (agent : AgentId) : Prop :=
  ∃ k ∈ old.holders base agent, ¬ old.Selects request k

instance (old : Stage) (request : List String) (base : String) (agent : AgentId) :
    Decidable (old.IsHeld request base agent) :=
  inferInstanceAs (Decidable (∃ k ∈ old.holders base agent, _))

/-- The agents that are not held, in their order. -/
def agentsLeft (old : Stage) (request : List String) (base : String) (agents : List Agent) :
    List Agent :=
  agents.filter fun a => ¬ old.IsHeld request base a.id

variable {stage : Stage} {base : String} {agent : AgentId} {j : JobInstance}

theorem mem_onAgents : j ∈ stage.onAgents base ↔ j ∈ stage.jobs.members ∧
    j.runType = .runOnAllAgents ∧ Text.sameName base j.baseName = true := by
  rw [onAgents, List.mem_filter, decide_eq_true_iff]

theorem mem_holders : j ∈ stage.holders base agent ↔ j ∈ stage.jobs.members ∧
    (j.runType = .runOnAllAgents ∧ Text.sameName base j.baseName = true) ∧
      j.agent = some agent := by
  rw [holders, List.mem_filter, mem_onAgents, decide_eq_true_iff, and_assoc]

end Stage

namespace RerunGroup

variable {g : RerunGroup} {old : Stage} {request : List String} {base : String}

theorem agentSiblings_eq (hb : Text.sameName base g.base = true) :
    g.agentSiblings old = old.onAgents base := by
  rw [agentSiblings, Stage.onAgents]
  refine List.filter_congr fun j _ => ?_
  rw [Bool.eq_iff_iff, decide_eq_true_iff, Bool.and_eq_true, JobInstance.isRunOnAllAgents,
    beq_iff_eq, Text.sameName_comm, ← Text.sameName_congr hb]

/-- An instance for all agents is in the group of its job exactly if it is
selected. The group is asked for the name only, but what selects an instance
selects any other of the same job and name. -/
theorem has_iff (hg : g ∈ old.groups request) {k : JobInstance} (hk : k ∈ g.agentSiblings old) :
    g.has k = true ↔ old.Selects request k := by
  obtain ⟨hin, -, hbase⟩ := mem_agentSiblings.mp hk
  have hsib : g.first.isSibling k = true := by
    rw [JobInstance.isSibling, Text.sameName_comm]
    exact hbase
  constructor
  · intro h
    obtain ⟨m, hm, hname⟩ := List.any_eq_true.mp h
    rw [beq_iff_eq] at hname
    obtain ⟨⟨hmin, hsel⟩, hms⟩ := (Stage.mem_members_of_mem_groups hg).mp hm
    obtain ⟨name, hreq, hnames⟩ := (Stage.selects_iff hmin).mp hsel
    refine ⟨name, hreq, hnames.imp (fun hn => by rw [← hname]; exact hn) fun ⟨hno, hn⟩ => ⟨hno, ?_⟩⟩
    -- the name is that of the job, which is the same for both
    have hkm : k.isSibling m = true := (JobInstance.isSibling_congr hsib m).symm.trans hms
    exact Text.sameName_trans hkm hn
  · intro h
    exact has_of_mem ((Stage.mem_members_of_mem_groups hg).mpr
      ⟨⟨hin, (Stage.selects_iff hin).mpr h⟩, hsib⟩)

theorem mem_busyAgents_iff (hg : g ∈ old.groups request) (hb : Text.sameName base g.base = true)
    {agent : AgentId} : agent ∈ g.busyAgents old ↔ old.IsHeld request base agent := by
  rw [mem_busyAgents, Stage.IsHeld]
  refine exists_congr fun k => ?_
  rw [Stage.holders, List.mem_filter, ← agentSiblings_eq hb, decide_eq_true_iff, and_assoc]
  refine and_congr_right fun hk => ?_
  rw [← has_iff hg hk, Bool.not_eq_true, and_comm]

/-- The free agents are those that are left. -/
theorem freeAgents_eq (hg : g ∈ old.groups request) (hb : Text.sameName base g.base = true)
    (job : JobConfig) (s : Scheduling) :
    g.freeAgents old job s = old.agentsLeft request base (s.matching job.resources) := by
  rw [freeAgents, Stage.agentsLeft]
  refine List.filter_congr fun a _ => ?_
  rw [Bool.eq_iff_iff, decide_eq_true_iff, Bool.not_eq_true', Bool.eq_false_iff, ne_eq,
    List.contains_iff_mem, mem_busyAgents_iff hg hb]

theorem highestIndex_eq (hb : Text.sameName base g.base = true) :
    g.highestIndex old = old.topIndex base := by
  rw [highestIndex, Stage.topIndex, agentSiblings_eq hb]
  cases (old.onAgents base).filterMap (·.index?) with
  | nil => rfl
  | cons i is => rw [List.foldl_cons, Nat.zero_max, List.max?_cons', Option.getD_some]

end RerunGroup
end StageRuns
