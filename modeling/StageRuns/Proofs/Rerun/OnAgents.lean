/-
# Instances for all agents after a rerun

If no agent is held by two instances of one job, the same is true of every
rerun, and when a job runs on all agents now and one of its instances is
selected, each agent that matches is held by just one of its instances
(`Scheduling.rerun_holdsOnce`). The new instances are one for each agent that no
instance which stays holds, in the order of the pool, and their indices follow
the highest one of the old instances.

A job without a name is left out: its instances for agents are named by the
marker alone, and such a name is that of a job of its own, so that an agent may
be held twice under it (`Scheduling.rerun_nameless`).

Key definitions: `JobInstance.SharesAgent`, `Stage.HoldsOnce`, `KnowJobs`.
Key theorems: `RerunGroup.ReplacedBy.exists_onAgents`,
`ReplacedGroups.holdsOnce_merged`, `ReplacedGroups.madeAnew_onAgents`,
`Scheduling.rerun_holdsOnce`.
-/
import StageRuns.Proofs.Rerun.Counting
import StageRuns.Proofs.Rerun.Siblings

namespace StageRuns

/-- Both instances are for all agents, of one job, and bound to the same
agent. -/
def JobInstance.SharesAgent (a b : JobInstance) : Prop :=
  a.runType = .runOnAllAgents ∧ b.runType = .runOnAllAgents ∧ a.isSibling b = true ∧
    a.agent ≠ none ∧ a.agent = b.agent

instance (a b : JobInstance) : Decidable (a.SharesAgent b) :=
  inferInstanceAs (Decidable (_ ∧ _))

/-- No two instances for all agents of one job are bound to the same agent. -/
def Stage.HoldsOnce (stage : Stage) : Prop :=
  stage.jobs.members.Pairwise fun a b => ¬ a.SharesAgent b

instance (stage : Stage) : Decidable stage.HoldsOnce :=
  inferInstanceAs (Decidable (List.Pairwise _ _))

theorem JobInstance.SharesAgent.symm {a b : JobInstance} (h : a.SharesAgent b) :
    b.SharesAgent a := by
  obtain ⟨ha, hb, hs, hne, he⟩ := h
  exact ⟨hb, ha, by rw [isSibling_comm]; exact hs, he ▸ hne, he.symm⟩

/-- If no agent is held twice, an instance that holds an agent is the only one of
its job. -/
theorem Stage.HoldsOnce.holders_eq {stage : Stage} (h : stage.HoldsOnce) {base : String}
    {agent : AgentId} {j : JobInstance} (hj : j ∈ stage.holders base agent) :
    stage.holders base agent = [j] := by
  obtain ⟨hon, ha⟩ := List.mem_filter.mp hj
  refine Lists.filter_eq_singleton hon ha
    ((List.Pairwise.filter _ h).imp_of_mem fun {a b} haon hbon hab haa => ?_)
  obtain ⟨-, har, hab'⟩ := mem_onAgents.mp haon
  obtain ⟨-, hbr, hbb⟩ := mem_onAgents.mp hbon
  rw [decide_eq_true_iff] at haa
  rw [decide_eq_false_iff_not]
  intro hba
  have hs : a.isSibling b = true := (Text.sameName_congr hab' b.baseName).symm.trans hbb
  exact hab ⟨har, hbr, hs, by rw [haa]; exact nofun, haa.trans hba.symm⟩

/-- What is kept of an instance is bound to no other agent. -/
theorem StageConfig.agent_of_keep {config : StageConfig} {k : JobInstance} {agent : AgentId}
    (h : (config.keep k).agent = some agent) : k.agent = some agent := by
  by_cases hl : k.LosesAgent config
  · rw [agent_keep_of_loses hl] at h
    cases h
  · rw [agent_keep hl] at h
    exact h

/-- What is kept of two instances shares an agent only if they do. -/
theorem StageConfig.sharesAgent_of_keep {config : StageConfig} {a b : JobInstance}
    (h : (config.keep a).SharesAgent (config.keep b)) : a.SharesAgent b := by
  obtain ⟨har, hbr, hs, hne, he⟩ := h
  have hca := config.isCopyOf_keep a
  have hcb := config.isCopyOf_keep b
  obtain ⟨agent, hagent⟩ := Option.ne_none_iff_exists'.mp hne
  have haa := agent_of_keep hagent
  have hba := agent_of_keep (he.symm.trans hagent)
  rw [JobInstance.isSibling, hca.baseName, hcb.baseName] at hs
  exact ⟨hca.runType.symm.trans har, hcb.runType.symm.trans hbr, hs,
    by rw [haa]; exact Option.some_ne_none agent, haa.trans hba.symm⟩

section Rerun

variable {old : Stage} {request : List String} {config : StageConfig} {s : Scheduling}
  {now : Instant} {g : RerunGroup} {r : Replacement} {rs : List Replacement} {base : String}
  {job : JobConfig}

namespace RerunGroup.ReplacedBy

/-- A new instance for all agents has an index under the name of its job, and a
free agent. -/
theorem exists_onAgents (h : g.ReplacedBy old config s now r) {j : JobInstance} (hj : j ∈ r.jobs)
    (hr : j.runType = .runOnAllAgents) :
    ∃ job, config.job? g.base = some job ∧ job.runType = .runOnAllAgents ∧
      (∃ agent ∈ g.freeAgents old job (s.forRerun config), j.agent = some agent.id) ∧
        ∃ k, j.name = instanceName g.base .runOnAllAgents k := by
  obtain ⟨job, fresh, hc, hf, rfl⟩ := h
  obtain ⟨k, hk, rfl⟩ := List.mem_map.mp hj
  have hall : job.runType = .runOnAllAgents := (hf.runType_eq hk).symm.trans hr
  obtain ⟨i, hi, _⟩ := hf.exists_index hk (by rw [hall]; exact nofun)
  rw [hall] at hi
  have hagent := hf.exists_agent hk hall
  exact ⟨job, hc, hall, hagent, i, hi⟩

/-- It knows the name of its job, unless that is empty or the index too large. -/
theorem baseName_onAgents (h : g.ReplacedBy old config s now r) {j : JobInstance} (hj : j ∈ r.jobs)
    (hr : j.runType = .runOnAllAgents) (hb : g.base ≠ "") (hf : j.IndexFits) :
    j.baseName = g.base := by
  obtain ⟨_, _, _, _, k, hk⟩ := h.exists_onAgents hj hr
  have hne : j.runType ≠ .single := by
    rw [hr]
    exact nofun
  rw [← hr] at hk
  exact (JobInstance.baseName_of_name hb hne hk (hf g.base k hne hk)).1

/-- The new instances of a job that runs on all agents now. -/
theorem jobs_onAgents (h : g.ReplacedBy old config s now r) (hg : g ∈ old.groups request)
    (hb : Text.sameName base g.base = true) (hc : config.job? base = some job)
    (hall : job.runType = .runOnAllAgents) :
    r.jobs = (agentRow g.base ((s.forRerun config).jobPlan old.name job) now (old.topIndex base)
      (old.agentsLeft request base (s.matching job.resources))).map JobInstance.markAsRerun := by
  obtain ⟨job', fresh, hc', hf, rfl⟩ := h
  rw [← config.job?_congr hb, hc] at hc'
  cases hc'
  cases hf with
  | once _ hr | onSameAgent _ hr | atIndices _ hr =>
    rw [hall] at hr
    cases hr
  | onFreeAgents =>
    rw [highestIndex_eq hb, freeAgents_eq hg hb]
    rfl

end RerunGroup.ReplacedBy

/-- The new instances for all agents know the names of their jobs. -/
def KnowJobs (old : Stage) (request : List String) (config : StageConfig) (s : Scheduling)
    (now : Instant) (rs : List Replacement) : Prop :=
  ∀ g ∈ old.groups request, ∀ r ∈ rs, g.ReplacedBy old config s now r →
    ∀ j ∈ r.jobs, j.runType = .runOnAllAgents → j.baseName = g.base

namespace ReplacedGroups

/-- An instance that stays and a new one do not share an agent. -/
theorem not_sharesAgent_keep (hg : g ∈ old.groups request) (hgr : g.ReplacedBy old config s now r)
    {k j : JobInstance} (hk : k ∈ old.jobs.members) (hs : old.selects request k = false)
    (hj : j ∈ r.jobs) (hbase : j.runType = .runOnAllAgents → j.baseName = g.base) :
    ¬ (config.keep k).SharesAgent j := by
  rintro ⟨hkr, hjr, hsib, hne, he⟩
  obtain ⟨job, _, _, ⟨agent, hfree, ha⟩, _⟩ := hgr.exists_onAgents hj hjr
  have hcopy := config.isCopyOf_keep k
  have hkb : Text.sameName g.base k.baseName = true := by
    rw [← hbase hjr, Text.sameName_comm]
    rw [JobInstance.isSibling, hcopy.baseName] at hsib
    exact hsib
  rw [RerunGroup.mem_freeAgents, RerunGroup.mem_busyAgents_iff hg (Text.sameName_self _)] at hfree
  exact hfree.2 ⟨k, Stage.mem_holders.mpr ⟨hk, ⟨hcopy.runType.symm.trans hkr, hkb⟩,
    StageConfig.agent_of_keep (he.trans ha)⟩, (Stage.selects_eq_false_iff hk).mp hs⟩

/-- No agent is held twice in the new stage. -/
theorem holdsOnce_merged (h : ReplacedGroups old request config s now rs) (hold : old.HoldsOnce)
    (hpool : IdsDiffer s.agents.members)
    (hbase : KnowJobs old request config s now rs) :
    (old.merged request config rs).Pairwise fun a b => ¬ a.SharesAgent b := by
  refine h.pairwise_merged (fun hab hba => hab hba.symm) ?_ ?_ ?_ ?_
  · rw [Stage.copies, List.pairwise_map]
    refine (List.Pairwise.filter _ hold).imp fun {a b} hab hshare => ?_
    exact hab (StageConfig.sharesAgent_of_keep hshare)
  · intro g hg r _ hgr
    obtain ⟨job, fresh, _, hf, rfl⟩ := hgr
    rw [List.pairwise_map]
    refine (hf.pairwise_agent hpool).imp fun hne hshare => ?_
    obtain ⟨har, -, -, -, he⟩ := hshare
    exact hne har he
  · rintro g hg g' hg' hd r hr t ht hgr hgt a ha b hb ⟨har, hbr, hs, -, -⟩
    rw [JobInstance.isSibling, hbase g hg r hr hgr a ha har, hbase g' hg' t ht hgt b hb hbr] at hs
    exact Bool.eq_false_iff.mp hd hs
  · intro k hk hs g hg r hr hgr j hj
    exact not_sharesAgent_keep hg hgr hk hs hj (hbase g hg r hr hgr j hj)

/-- The new instances of a job that runs on all agents now, in their order. -/
theorem madeAnew_onAgents (h : ReplacedGroups old request config s now rs) {new : Stage}
    (hnew : new.jobs.members = old.merged request config rs)
    (hbase : KnowJobs old request config s now rs)
    (hg : g ∈ old.groups request) (hb : Text.sameName base g.base = true)
    (hc : config.job? base = some job) (hall : job.runType = .runOnAllAgents) :
    new.madeAnew base .runOnAllAgents =
      (agentRow g.base ((s.forRerun config).jobPlan old.name job) now (old.topIndex base)
        (old.agentsLeft request base (s.matching job.resources))).map
          JobInstance.markAsRerun := by
  obtain ⟨r, hr, hgr⟩ := h.exists_replacement hg
  rw [← hgr.jobs_onAgents hg hb hc hall, Stage.madeAnew, hnew, Stage.merged,
    filter_mergeReplacements_eq_pieces hr h.pairwise_base, List.countP_nil]
  · have hcount : (old.jobs.members.filter (old.selects request)).countP r.covers =
        g.members.length := hgr.countP_covers hg
    rw [hcount]
    exact hgr.pieces_eq_jobs
  · intro k
    rw [decide_eq_false_iff_not]
    exact config.not_runsAgain_keep k base .runOnAllAgents
  · intro j hj
    have hrerun := (hgr.scheduledAt hj).isRerun
    have hjr : j.runType = .runOnAllAgents := by
      rw [hgr.jobs_onAgents hg hb hc hall] at hj
      obtain ⟨k, hk, rfl⟩ := List.mem_map.mp hj
      obtain ⟨_, _, _, _, rfl⟩ := mem_agentRow hk
      rfl
    rw [decide_eq_true_iff, JobInstance.RunsAgain, hbase g hg r hr hgr j hj hjr]
    exact ⟨hrerun, hjr, hb⟩
  · intro t ht hd j hj
    obtain ⟨g', hg', hgt⟩ := h.exists_group ht
    rw [decide_eq_false_iff_not]
    rintro ⟨-, hjr, hjb⟩
    rw [hbase g' hg' t ht hgt j hj hjr] at hjb
    rw [hgr.base_eq, hgt.base_eq, ← Text.sameName_congr hb, hjb] at hd
    cases hd

/-- Each agent that matches is held in the new stage. -/
theorem exists_holder (h : ReplacedGroups old request config s now rs) {new : Stage}
    (hnew : new.jobs.members = old.merged request config rs)
    (hbase : KnowJobs old request config s now rs)
    (hg : g ∈ old.groups request) (hb : Text.sameName base g.base = true)
    (hc : config.job? base = some job) (hall : job.runType = .runOnAllAgents) {agent : Agent}
    (ha : agent ∈ s.matching job.resources) : ∃ j, j ∈ new.holders base agent.id := by
  by_cases hheld : old.IsHeld request base agent.id
  · -- the copy of an instance that holds the agent goes on to hold it
    obtain ⟨k, hk, hns⟩ := hheld
    obtain ⟨hin, ⟨hkr, hkb⟩, hka⟩ := Stage.mem_holders.mp hk
    have hs : old.selects request k = false := (Stage.selects_eq_false_iff hin).mpr hns
    have hcopy := config.isCopyOf_keep k
    have hkept : ¬ k.LosesAgent config := by
      rintro ⟨-, current, hcur, hne⟩
      rw [← config.job?_congr hkb, hc] at hcur
      cases hcur
      exact hne hall
    have hmem : config.keep k ∈ new.jobs.members := hnew ▸ h.keep_mem_merged hin hs
    exact ⟨config.keep k, Stage.mem_holders.mpr ⟨hmem,
      ⟨hcopy.runType.trans hkr, by rw [hcopy.baseName]; exact hkb⟩,
      (hcopy.agentKept hkept).trans hka⟩⟩
  · obtain ⟨r, hr, hgr⟩ := h.exists_replacement hg
    have hleft : agent ∈ old.agentsLeft request base (s.matching job.resources) :=
      List.mem_filter.mpr ⟨ha, decide_eq_true hheld⟩
    obtain ⟨j, hj, hja⟩ := exists_mem_agentRow hleft
    have hmade := h.madeAnew_onAgents hnew hbase hg hb hc hall
    have hmem : j.markAsRerun ∈ new.madeAnew base .runOnAllAgents := by
      rw [hmade]
      exact List.mem_map_of_mem hj
    obtain ⟨hin, hp⟩ := List.mem_filter.mp hmem
    obtain ⟨-, hjr, hjb⟩ := of_decide_eq_true hp
    exact ⟨_, Stage.mem_holders.mpr ⟨hin, ⟨hjr, hjb⟩, hja⟩⟩

end ReplacedGroups

/-- If no agent is held by two instances of one job, the same is true of a rerun,
as long as no selected job that runs on all agents now lacks a name. For such a
job, each agent that matches is held by exactly one of its instances; the new
ones are for the agents that no instance which stays holds, in the order of the
pool, with the indices that follow the highest of the old instances. -/
theorem Scheduling.rerun_holdsOnce {agents : List Agent} {configVersion : String} {new : Stage}
    (hpool : Agents.ofList agents = .ok s.agents) (hold : old.HoldsOnce)
    (h : s.rerun old request config configVersion now = .ok new)
    (hnamed : ∀ j ∈ old.jobs.members, old.Selects request j → ∀ job,
      config.job? j.baseName = some job → job.runType = .runOnAllAgents → j.baseName ≠ "")
    (hfits : ∀ j ∈ new.jobs.members, j.isRerun = true → j.IndexFits) :
    new.HoldsOnce ∧ ∀ base first others job, old.selectedOf request base = first :: others →
      config.job? base = some job → job.runType = .runOnAllAgents →
        (∀ agent ∈ s.matching job.resources, ∃ j, new.holders base agent.id = [j]) ∧
        (new.madeAnew base .runOnAllAgents).map (fun j => (j.name, j.agent)) =
          (old.agentsLeft request base (s.matching job.resources)).mapIdx fun i agent =>
            (instanceName first.baseName .runOnAllAgents (old.topIndex base + (i + 1)),
              some agent.id) := by
  obtain ⟨-, -, rs, hrs, -, hnew⟩ := rerun_eq_ok.mp h
  have hmerged : new.jobs.members = old.merged request config rs := by rw [hnew]; rfl
  have hids : IdsDiffer s.agents.members := Agents.idsDiffer_of_ofList hpool
  have hbase : KnowJobs old request config s now rs := by
    intro g hg r hr hgr j hj hjr
    obtain ⟨job, hc, hall, _⟩ := hgr.exists_onAgents hj hjr
    obtain ⟨hin, hsel⟩ := List.mem_filter.mp (RerunGroup.first_mem hg)
    have hne : g.base ≠ "" := hnamed g.first hin ((Stage.selects_iff hin).mp hsel) job hc hall
    have hfit := hfits j (hmerged ▸ hrs.mem_merged hr hj) (hgr.scheduledAt hj).isRerun
    exact hgr.baseName_onAgents hj hjr hne hfit
  have honce : new.HoldsOnce := by
    rw [Stage.HoldsOnce, hmerged]
    exact hrs.holdsOnce_merged hold hids hbase
  refine ⟨honce, fun base first others job hsel hc hall => ?_⟩
  obtain ⟨g, hg, hb⟩ := Stage.exists_group_of_mem (hsel ▸ List.mem_cons_self)
  rw [Stage.selectedOf_eq_members hg hb] at hsel
  obtain ⟨rfl, -⟩ := List.cons.inj hsel
  constructor
  · intro agent ha
    obtain ⟨j, hj⟩ := hrs.exists_holder hmerged hbase hg hb hc hall ha
    exact ⟨j, honce.holders_eq hj⟩
  · rw [hrs.madeAnew_onAgents hmerged hbase hg hb hc hall, List.map_map, map_agentRow]
    rfl

end Rerun

/-- On two agents, the second instance of job `a` is made anew, and the first one
goes on to hold its agent. -/
theorem Scheduling.rerun_holdsOnce_passedOnTwoAgents : ∃ new,
    twoAgents.rerun passedOnTwoAgents ["a-runOnAll-2"] agentsAndOnce "2" ⟨2, 0⟩ = .ok new ∧
      new.HoldsOnce ∧
      (∀ agent ∈ twoAgents.agents.members, ∃ j, new.holders "a" agent.id = [j]) ∧
      (new.madeAnew "a" .runOnAllAgents).map (fun j => (j.name, j.agent)) =
        [("a-runOnAll-3", some ⟨"u2"⟩)] := by
  have hrun : (twoAgents.rerun passedOnTwoAgents ["a-runOnAll-2"] agentsAndOnce "2" ⟨2, 0⟩).map
      (fun new => decide (∀ j ∈ new.jobs.members, j.name.length ≤ 19)) = .ok true := by
    decide +kernel
  obtain ⟨new, hnew, hshort⟩ := Outcome.map_eq_ok.mp hrun
  have hpool : Agents.ofList twoAgents.agents.members = .ok twoAgents.agents := by decide +kernel
  obtain ⟨honce, hall⟩ := rerun_holdsOnce hpool (by decide +kernel) hnew (by decide +kernel)
    fun j hj _ => JobInstance.indexFits_of_length_le (of_decide_eq_true hshort j hj)
  obtain ⟨hheld, hmade⟩ := hall "a" _ _ { name := "a", runOnAllAgents := true }
    rfl (by decide +kernel) rfl
  exact ⟨new, hnew, honce, hheld, hmade⟩

/-- Two instances for the first agent: of a job without a name, and of one that
has the name of an instance of such a job. -/
def nameless : Stage :=
  (twoAgents.freshStage { name := "test", jobs := [] } "1" ⟨0, 0⟩
    (["", "-runOnAll-1-runOnAll-1"].map fun name =>
      agentInstance (twoAgents.jobPlan "test" { name }) ⟨0, 0⟩ name { id := ⟨"u1"⟩ })).completeAll
    .passed ⟨1, 0⟩

/-- The new instance of a job without a name counts as one of the other job, so
that the agent is held twice. -/
theorem Scheduling.rerun_nameless : nameless.HoldsOnce ∧ ∃ new,
    twoAgents.rerun nameless [""]
      { name := "test", jobs := [{ name := "", runOnAllAgents := true }] } "2" ⟨2, 0⟩ = .ok new ∧
      (∀ j ∈ new.jobs.members, j.isRerun = true → j.IndexFits) ∧ ¬ new.HoldsOnce := by
  have hrun : (twoAgents.rerun nameless [""]
      { name := "test", jobs := [{ name := "", runOnAllAgents := true }] } "2" ⟨2, 0⟩).map
      (fun new => decide ((∀ j ∈ new.jobs.members, j.isRerun = true → j.name.length ≤ 19) ∧
        ¬ new.HoldsOnce)) = .ok true := by
    decide +kernel
  obtain ⟨new, hnew, hshort⟩ := Outcome.map_eq_ok.mp hrun
  obtain ⟨hshort, htwice⟩ := of_decide_eq_true hshort
  exact ⟨by decide +kernel, new, hnew,
    fun j hj hr => JobInstance.indexFits_of_length_le (hshort j hj hr), htwice⟩

end StageRuns
