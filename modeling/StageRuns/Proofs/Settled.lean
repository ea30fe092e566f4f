/-
# Settled stages

A stage is settled in given surroundings and under a configuration if each of
its instances is one of a configured job, no two have the same name and
instances of one job for all agents are bound to different agents. Stages are
settled when they are instantiated under plain names, with a pool in which no
agent is listed twice (`Scheduling.settled_instantiate`), and they stay so
whatever their jobs do (`Stage.Settled.of_sameRoles`).

Key definitions: `JobInstance.AgentDiffers`, `Stage.Settled`.
Key theorems: `Stage.Settled.of_sameRoles`, `Scheduling.settled_instantiate`.
-/
import StageRuns.Proofs.Chain
import StageRuns.Proofs.NamedJobs
import StageRuns.Proofs.Rerun.Selection

namespace StageRuns

/-- Instances of one job for all agents are bound to different agents. -/
def JobInstance.AgentDiffers (a b : JobInstance) : Prop :=
  a.runType = .runOnAllAgents → b.runType = .runOnAllAgents → a.isSibling b = true →
    a.agent ≠ b.agent

/-- The instances of the stage are those of configured jobs, each with a name
and an agent of its own. -/
structure Stage.Settled (stage : Stage) (s : Scheduling) (config : StageConfig) : Prop where
  fits : ∀ j ∈ stage.jobs.members, j.IndexFits
  fills : ∀ j ∈ stage.jobs.members, ∃ job ∈ config.jobs, ∃ i, j.Fills s job i
  names : NamesDiffer stage.jobs.members
  agents : stage.jobs.members.Pairwise JobInstance.AgentDiffers

namespace JobInstance

variable {a b c d : JobInstance}

theorem AgentDiffers.symm (h : a.AgentDiffers b) : b.AgentDiffers a := by
  intro hb ha hs he
  rw [isSibling_comm] at hs
  exact h ha hb hs he.symm

instance : Std.Symm AgentDiffers := ⟨fun _ _ h => h.symm⟩

/-! ### Roles -/

theorem SameRole.fills {s : Scheduling} {job : JobConfig} {i : Option Nat} (h : a.SameRole b)
    (hf : a.Fills s job i) : b.Fills s job i :=
  ⟨hf.named.of_eq h.name h.runType, hf.counted, fun hr => by rw [h.agent]; exact hf.bound hr⟩

theorem SameRole.agentDiffers (hac : a.SameRole c) (hbd : b.SameRole d) (h : a.AgentDiffers b) :
    c.AgentDiffers d := by
  intro hc hd hs
  rw [hac.runType] at hc
  rw [hbd.runType] at hd
  rw [isSibling, hac.baseName, hbd.baseName] at hs
  rw [hac.agent, hbd.agent]
  exact h hc hd hs

end JobInstance

variable {s : Scheduling} {config : StageConfig}

/-- Whether a stage is settled depends on the roles of its instances only. -/
theorem Stage.Settled.of_sameRoles {a b : Stage} (h : a.Settled s config) (hab : a.SameRoles b) :
    b.Settled s config where
  fits j hj := by
    obtain ⟨k, hk, hkj⟩ := Lists.exists_left hab hj
    exact hkj.indexFits (h.fits k hk)
  fills j hj := by
    obtain ⟨k, hk, hkj⟩ := Lists.exists_left hab hj
    obtain ⟨job, hjob, i, hi⟩ := h.fills k hk
    exact ⟨job, hjob, i, hkj.fills hi⟩
  names := Lists.pairwise_of_forall₂ hab (fun _ _ _ _ => JobInstance.SameRole.nameDiffers) h.names
  agents :=
    Lists.pairwise_of_forall₂ hab (fun _ _ _ _ => JobInstance.SameRole.agentDiffers) h.agents

/-! ### Instantiation -/

namespace Scheduling

variable {stageName configVersion : String} {now : Instant}

/-- The instances of one job are bound to different agents. -/
theorem pairwise_agentDiffers_expansion (hpool : IdsDiffer s.agents.members) (job : JobConfig) :
    (s.expansion stageName now job).Pairwise JobInstance.AgentDiffers := by
  cases hr : job.runType with
  | single =>
    rw [expansion_of_single hr]
    exact List.pairwise_singleton ..
  | runOnAllAgents =>
    rw [expansion_of_runOnAllAgents hr]
    have hmatching : IdsDiffer (s.matching job.resources) := Agents.idsDiffer_matching hpool _
    exact (pairwise_agent_agentRow _ _ _ _ hmatching).imp fun h _ _ _ => h
  | runMultipleInstance =>
    rw [expansion_of_runMultiple hr, List.pairwise_map]
    exact List.pairwise_of_forall fun _ _ => nofun

/-- A stage is settled when it is instantiated. -/
theorem settled_instantiate {stage : Stage} (hp : config.IsPlain)
    (hpool : IdsDiffer s.agents.members)
    (h : s.instantiate config configVersion now = .ok stage)
    (hfits : ∀ j ∈ stage.jobs.members, j.IndexFits) : stage.Settled s config := by
  obtain ⟨-, hnames, rfl⟩ := instantiate_eq_ok.mp h
  refine ⟨hfits, fun j hj => ?_, hnames, List.pairwise_flatMap.mpr ⟨fun job _ => ?_, ?_⟩⟩
  · obtain ⟨job, hjob, hj⟩ := List.mem_flatMap.mp hj
    obtain ⟨i, hi⟩ := exists_fills hj
    exact ⟨job, hjob, i, hi.named, hi.counted, hi.bound⟩
  · have hinner : IdsDiffer (s.withVariables config.environment).agents.members := hpool
    exact pairwise_agentDiffers_expansion hinner job
  · -- instances of different jobs are no siblings
    refine hp.differ.imp_of_mem fun {x y} hx hy hxy a ha b hb _ _ hs => ?_
    obtain ⟨i, hi⟩ := exists_fills ha
    obtain ⟨k, hk⟩ := exists_fills hb
    have hfa := hfits a (List.mem_flatMap.mpr ⟨x, hx, ha⟩)
    have hfb := hfits b (List.mem_flatMap.mpr ⟨y, hy, hb⟩)
    rw [JobInstance.isSibling, (hi.named.parts (hp.plain x hx).1 hfa).1,
      (hk.named.parts (hp.plain y hy).1 hfb).1, hxy] at hs
    cases hs

end Scheduling
end StageRuns
