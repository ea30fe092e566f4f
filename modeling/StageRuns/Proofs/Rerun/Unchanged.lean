/-
# Reruns under an unchanged configuration

A settled stage whose jobs have ended can be rerun under its configuration,
whatever instances are requested: every group can be made anew
(`Stage.Settled.exists_renewal`), and since all instances have the run types
that are configured, none of them clash (`Stage.Settled.not_clashes`). The new
stage is settled again, so along a chain under one configuration no rerun ever
fails (`Stage.Reached.rerun_succeeds`).

For an agent to be free, the selected instances of a job for all agents must be
bound to other agents than those that stay; this is what `Stage.Settled` keeps.

Key definitions: `Scheduling.Keeps`.
Key theorems: `Stage.Settled.exists_renewal`, `Stage.Settled.not_clashes`,
`Scheduling.settled_rerun`, `Stage.Reached.rerun_succeeds`.
-/
import StageRuns.Proofs.Settled
import StageRuns.Proofs.Rerun.NameClash
import StageRuns.Proofs.Rerun.OnAgents

namespace StageRuns

namespace Stage.Settled

variable {s : Scheduling} {config : StageConfig} {old : Stage} {request : List String}
  {g : RerunGroup} {job : JobConfig} {now : Instant} {fresh : List JobInstance}

/-! ### The instances of a settled stage -/

/-- An instance is one of the job that is configured under its base name. -/
theorem exists_configured (hold : old.Settled s config) (hp : config.IsPlain) {j : JobInstance}
    (hj : j ∈ old.jobs.members) : ∃ job ∈ config.jobs, j.baseName = job.name ∧
      config.job? j.baseName = some job ∧ j.Fills s job j.index? := by
  obtain ⟨job, hjob, i, hi⟩ := hold.fills j hj
  obtain ⟨hb, hx⟩ := hi.named.parts (hp.plain job hjob).1 (hold.fits j hj)
  refine ⟨job, hjob, hb, ?_, by rw [hx]; exact hi⟩
  rw [hb]
  exact StageConfig.job?_name hp.differ hjob

/-- A settled stage is orderly. -/
theorem orderly (hold : old.Settled s config) (hp : config.IsPlain) : old.Orderly := by
  refine orderly_of_namedFor hp hold.fits (fun j hj => ?_) hold.names
  obtain ⟨job, hjob, i, hi⟩ := hold.fills j hj
  exact ⟨job, hjob, i, hi.named⟩

/-- No agent is held by two instances of a job. -/
theorem holdsOnce (hold : old.Settled s config) : old.HoldsOnce :=
  hold.agents.imp fun hd ⟨ha, hb, hs, _, he⟩ => hd ha hb hs he

/-- What ran on all agents does so now. -/
theorem not_clashes (hold : old.Settled s config) (hp : config.IsPlain) :
    ¬ old.Clashes request config := by
  rintro ⟨j, hj, -, -, -, -, -, hjr, -, job, hc, hr⟩
  obtain ⟨job', -, -, hc', hi⟩ := hold.exists_configured hp hj
  rw [hc] at hc'
  cases hc'
  rw [hi.named.runType_eq, hr] at hjr
  cases hjr

/-- What stays of an instance has its role. -/
theorem sameRole_keep (hold : old.Settled s config) (hp : config.IsPlain) {k : JobInstance}
    (hk : k ∈ old.jobs.members) : k.SameRole (config.keep k) := by
  have hcopy := config.isCopyOf_keep k
  refine ⟨hcopy.name, hcopy.runType, hcopy.agentKept ?_⟩
  rintro ⟨hr, current, hc, hne⟩
  obtain ⟨job, -, -, hc', hi⟩ := hold.exists_configured hp hk
  rw [hc] at hc'
  cases hc'
  exact hne (hi.named.runType_eq.symm.trans hr)

/-! ### The groups of a settled stage -/

/-- All members of a group are instances of one configured job, which gives the
group its name. -/
theorem exists_job (hold : old.Settled s config) (hp : config.IsPlain)
    (hg : g ∈ old.groups request) : ∃ job ∈ config.jobs, g.base = job.name ∧
      config.job? g.base = some job ∧ ∀ m ∈ g.members, m.Fills s job m.index? := by
  obtain ⟨job, hjob, hbase, hc, _⟩ := hold.exists_configured hp (first_mem_of_mem_groups hg)
  refine ⟨job, hjob, hbase, hc, fun m hm => ?_⟩
  obtain ⟨⟨hin, _⟩, hs⟩ := (mem_members_of_mem_groups hg).mp hm
  obtain ⟨job', -, -, hc', hfills⟩ := hold.exists_configured hp hin
  rw [← config.job?_congr hs, hc] at hc'
  cases hc'
  exact hfills

/-- A selected instance for all agents leaves its agent free. -/
theorem freeAgents_ne_nil (hold : old.Settled s config) (hg : g ∈ old.groups request)
    (hfills : g.first.Fills s job g.first.index?) (hr : job.runType = .runOnAllAgents) :
    g.freeAgents old job (s.forRerun config) ≠ [] := by
  obtain ⟨agent, hmatch, hagent⟩ := hfills.bound hr
  refine List.ne_nil_of_mem (RerunGroup.mem_freeAgents.mpr ⟨hmatch, fun hbusy => ?_⟩)
  obtain ⟨k, hk, hhas, hka⟩ := RerunGroup.mem_busyAgents.mp hbusy
  obtain ⟨hkin, hkr, hks⟩ := RerunGroup.mem_agentSiblings.mp hk
  have hne : g.first ≠ k := by
    intro he
    rw [← he, RerunGroup.has_of_mem List.mem_cons_self] at hhas
    cases hhas
  have hd : g.first.AgentDiffers k :=
    List.Pairwise.forall hold.agents (first_mem_of_mem_groups hg) hkin hne
  rw [Text.sameName_comm] at hks
  exact hd (hfills.named.runType_eq.trans hr) hkr hks (hagent.trans hka.symm)

/-- Every group of a settled stage can be made anew. -/
theorem exists_renewal (hold : old.Settled s config) (hg : g ∈ old.groups request)
    (hfills : ∀ m ∈ g.members, m.Fills s job m.index?) (now : Instant) :
    ∃ fresh, g.Renewal old job (s.forRerun config) now fresh := by
  have hfirst : g.first.Fills s job g.first.index? := hfills g.first List.mem_cons_self
  have ht := hfirst.named.runType_eq
  cases hr : job.runType with
  | single => exact ⟨_, .once (ht.trans hr) hr⟩
  | runOnAllAgents =>
    exact ⟨_, .onFreeAgents (ht.trans hr) hr (hold.freeAgents_ne_nil hg hfirst hr)⟩
  | runMultipleInstance =>
    exact ⟨_, .atIndices (ht.trans hr) hr fun m hm => (hfills m hm).counted hr⟩

theorem exists_replacedGroups (hold : old.Settled s config) (hp : config.IsPlain)
    (request : List String) (now : Instant) :
    ∃ rs, ReplacedGroups old request config s now rs := by
  have hall : ∀ g ∈ old.groups request,
      ∃ r, g.replacement old config (s.forRerun config) now = .ok r := by
    intro g hg
    obtain ⟨job, -, -, hc, hfills⟩ := hold.exists_job hp hg
    obtain ⟨fresh, hf⟩ := hold.exists_renewal hg hfills now
    exact ⟨_, RerunGroup.replacement_eq_ok.mpr ⟨job, fresh, hc, hf, rfl⟩⟩
  obtain ⟨rs, hrs⟩ := Outcome.exists_mapM_eq_ok hall
  exact ⟨rs, Scheduling.replacements_eq_ok.mp hrs⟩

/-! ### The new instances of a settled stage -/

/-- A new instance is one of the job of its group. -/
theorem fills_of_renewal (hbase : g.base = job.name)
    (hfills : ∀ m ∈ g.members, m.Fills s job m.index?)
    (hf : g.Renewal old job (s.forRerun config) now fresh) {j : JobInstance} (hj : j ∈ fresh) :
    ∃ i, j.Fills s job i := by
  have hfirst : g.first.Fills s job g.first.index? := hfills g.first List.mem_cons_self
  cases hf with
  | once _ hr =>
    rw [List.mem_singleton.mp hj]
    exact ⟨none, .once hr rfl hbase, by rw [hr]; exact nofun, by rw [hr]; exact nofun⟩
  | onSameAgent ht hr =>
    rw [hfirst.named.runType_eq, hr] at ht
    cases ht
  | onFreeAgents _ hr =>
    obtain ⟨k, _, agent, ha, rfl⟩ := mem_agentRow hj
    refine ⟨some k, .numbered (by rw [hr]; exact nofun) hr.symm ?_, by rw [hr]; exact nofun,
      fun _ => ⟨agent, (RerunGroup.mem_freeAgents.mp ha).1, rfl⟩⟩
    rw [hr, ← hbase]
    rfl
  | atIndices _ hr hle =>
    obtain ⟨m, hm, rfl⟩ := List.mem_map.mp hj
    refine ⟨some (m.index?.getD 1), .numbered (by rw [hr]; exact nofun) hr.symm ?_,
      fun _ => hle m hm, by rw [hr]; exact nofun⟩
    rw [hr, ← hbase]
    rfl

/-- What replaces a group are new instances of its job. -/
theorem fills_of_replacedBy (hold : old.Settled s config) (hp : config.IsPlain)
    (hg : g ∈ old.groups request) {r : Replacement} (hgr : g.ReplacedBy old config s now r)
    {j : JobInstance} (hj : j ∈ r.jobs) :
    ∃ job ∈ config.jobs, g.base = job.name ∧ ∃ i, j.Fills s job i := by
  obtain ⟨job, hjob, hbase, hc, hfills⟩ := hold.exists_job hp hg
  obtain ⟨job', fresh, hc', hf, rfl⟩ := hgr
  rw [hc] at hc'
  cases hc'
  obtain ⟨k, hk, rfl⟩ := List.mem_map.mp hj
  obtain ⟨i, hi⟩ := fills_of_renewal hbase hfills hf hk
  exact ⟨job, hjob, hbase, i, hi.named.of_eq rfl rfl, hi.counted, hi.bound⟩

end Stage.Settled

/-! ### Rounds -/

namespace Scheduling

variable {s : Scheduling} {config : StageConfig} {old new : Stage} {request : List String}
  {configVersion : String} {now : Instant}

/-- A rerun of a settled stage is settled. -/
theorem settled_rerun (hold : old.Settled s config) (hp : config.IsPlain)
    (hpool : IdsDiffer s.agents.members)
    (h : s.rerun old request config configVersion now = .ok new)
    (hfits : ∀ j ∈ new.jobs.members, j.IndexFits) : new.Settled s config := by
  obtain ⟨-, -, rs, hrs, hnames, rfl⟩ := rerun_eq_ok.mp h
  have hfills : ∀ j ∈ old.merged request config rs, ∃ job ∈ config.jobs, ∃ i, j.Fills s job i := by
    intro j hj
    rcases mem_mergeReplacements hj with ⟨k, hk, _, rfl⟩ | ⟨r, hr, hj⟩
    · obtain ⟨job, hjob, i, hi⟩ := hold.fills k hk
      exact ⟨job, hjob, i, (hold.sameRole_keep hp hk).fills hi⟩
    · obtain ⟨g, hg, hgr⟩ := hrs.exists_group hr
      obtain ⟨job, hjob, -, hi⟩ := hold.fills_of_replacedBy hp hg hgr hj
      exact ⟨job, hjob, hi⟩
  have hbase : KnowJobs old request config s now rs := by
    intro g hg r hr hgr j hj _
    obtain ⟨job, hjob, hb, i, hi⟩ := hold.fills_of_replacedBy hp hg hgr hj
    rw [(hi.named.parts (hp.plain job hjob).1 (hfits j (hrs.mem_merged hr hj))).1, hb]
  have honce := hrs.holdsOnce_merged hold.holdsOnce hpool hbase
  refine ⟨hfits, hfills, hnames, honce.imp_of_mem fun {a b} ha _ hab har hbr hs he => ?_⟩
  obtain ⟨job, -, i, hi⟩ := hfills a ha
  obtain ⟨agent, -, haa⟩ := hi.bound (hi.named.runType_eq.symm.trans har)
  exact hab ⟨har, hbr, hs, by rw [haa]; exact nofun, he⟩

/-- Under its own configuration, a settled stage that has ended can be rerun. -/
theorem exists_rerun (hold : old.Settled s config) (hp : config.IsPlain)
    (hc : old.isCompleted = true) (ha : old.Accepts request) (configVersion : String)
    (now : Instant) : ∃ new, s.rerun old request config configVersion now = .ok new := by
  obtain ⟨rs, hrs⟩ := hold.exists_replacedGroups hp request now
  have hnames := (hrs.namesDiffer_merged_iff (hold.orderly hp)).mpr (hold.not_clashes hp)
  exact ⟨_, rerun_eq_ok.mpr ⟨hc, ha, rs, hrs, hnames, rfl⟩⟩

/-- The surroundings and the configuration stay what they are, and every index
has 32 bits. -/
def Keeps (s : Scheduling) (config : StageConfig) (s' : Scheduling) (config' : StageConfig)
    (new : Stage) : Prop :=
  s' = s ∧ config' = config ∧ ∀ j ∈ new.jobs.members, j.IndexFits

end Scheduling

namespace Stage.Reached

variable {s : Scheduling} {config : StageConfig} {stage : Stage}

/-- The stages of a chain under one plain configuration are settled. -/
theorem settled (hp : config.IsPlain) (hpool : IdsDiffer s.agents.members)
    (h : stage.Reached (s.Keeps config)) : stage.Settled s config := by
  refine h.invariant (P := fun stage => stage.Settled s config)
    (fun _ _ ha hab => ha.of_sameRoles hab) ?_ ?_
  · rintro s' config' _ _ _ hi ⟨rfl, rfl, hfits⟩
    exact Scheduling.settled_instantiate hp hpool hi hfits
  · rintro s' _ _ config' _ _ _ hold hr ⟨rfl, rfl, hfits⟩
    exact Scheduling.settled_rerun hold hp hpool hr hfits

/-- Along a chain of rounds in the same surroundings and under the same plain
configuration, every rerun of a stage that has ended succeeds, whatever names of
instances or jobs are requested. -/
theorem rerun_succeeds {agents : List Agent} {request : List String} (hp : config.IsPlain)
    (hpool : Agents.ofList agents = .ok s.agents) (h : stage.Reached (s.Keeps config))
    (hc : stage.isCompleted = true) (hne : request ≠ [])
    (hknown : ∀ name ∈ request, ∃ j ∈ stage.jobs.members,
      Text.sameName j.name name = true ∨ Text.sameName j.baseName name = true)
    (configVersion : String) (now : Instant) :
    ∃ new, s.rerun stage request config configVersion now = .ok new := by
  have hsettled := h.settled hp (Agents.idsDiffer_of_ofList hpool)
  exact Scheduling.exists_rerun hsettled hp hc (Stage.accepts_iff.mpr ⟨hne, hknown⟩) _ _

/-- After both jobs have passed on two agents, both may be run again. -/
theorem rerun_succeeds_passedOnTwoAgents : ∃ new,
    twoAgents.rerun passedOnTwoAgents ["a-runonall-2", "B"] agentsAndOnce "2" ⟨2, 0⟩ =
      .ok new := by
  have hplain : agentsAndOnce.IsPlain := ⟨by decide +kernel, by decide +kernel⟩
  have hpool : Agents.ofList twoAgents.agents.members = .ok twoAgents.agents := by decide +kernel
  have hreached : passedOnTwoAgents.Reached (twoAgents.Keeps agentsAndOnce) :=
    passedOnTwoAgents_reached ⟨rfl, rfl, indexFits_onTwoAgents⟩
  exact rerun_succeeds hplain hpool hreached (by decide +kernel) (by decide)
    (by decide +kernel) "2" ⟨2, 0⟩

end Stage.Reached
end StageRuns
