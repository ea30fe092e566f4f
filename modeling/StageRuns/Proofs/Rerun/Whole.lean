/-
# A rerun of everything

If all instances of an instantiated stage are rerun in the same surroundings
and under the same configuration, the new stage is the one that instantiation
would make at that time, except that its instances are marked as a rerun, that
those for agents go on counting from the old ones, and that the stage counts on
(`Scheduling.rerun_whole`).

The old instances are those of the configured jobs, one job after the other, so
each group is the row of one job, and merging lays down the new rows in the same
order.

Key definitions: `JobInstance.shifted`, `Stage.agentCount`, `Stage.againJobs`.
Key theorems: `RerunGroup.Renewal.eq_again`, `mergeReplacements_rows`,
`Scheduling.rerun_whole`.
-/
import StageRuns.Proofs.Chain
import StageRuns.Proofs.NamedJobs
import StageRuns.Proofs.Rerun.Stage

namespace StageRuns

namespace JobInstance

/-- The instance under another name, which its plan has, too. -/
def rename (job : JobInstance) (name : String) : JobInstance :=
  { job with
    name
    plan := { job.plan with identifier := { job.plan.identifier with jobName := name } } }

/-- An instance for an agent with an index that is higher by `n`. Other instances
stay what they are. -/
def shifted (n : Nat) (job : JobInstance) : JobInstance :=
  match job.runType, job.index? with
  | .runOnAllAgents, some k => job.rename (instanceName job.baseName .runOnAllAgents (n + k))
  | _, _ => job

theorem shifted_of_ne {job : JobInstance} (h : job.runType ≠ .runOnAllAgents) (n : Nat) :
    job.shifted n = job := by
  unfold shifted
  split
  · exact absurd ‹_› h
  · rfl

/-- An instance for an agent has the index that it is named by. -/
theorem parts_agentInstance {base : String} {plan : JobPlan} {now : Instant} {k : Nat}
    {agent : Agent} (hb : base ≠ "")
    (hf : (agentInstance plan now (instanceName base .runOnAllAgents k) agent).IndexFits) :
    (agentInstance plan now (instanceName base .runOnAllAgents k) agent).baseName = base ∧
      (agentInstance plan now (instanceName base .runOnAllAgents k) agent).index? = some k :=
  baseName_of_name hb nofun rfl (hf base k nofun rfl)

theorem index?_runInstance {base : String} {plan : JobPlan} {now : Instant} {k count : Nat}
    (hb : base ≠ "") (hf : (runInstance base plan k count now).IndexFits) :
    (runInstance base plan k count now).index? = some k := by
  have hr : (runInstance base plan k count now).runType ≠ .single := nofun
  exact (baseName_of_name hb hr rfl (hf base k hr rfl)).2

end JobInstance

namespace Stage

/-- The number of instances of the job of an instance that run on all agents. -/
def agentCount (stage : Stage) (job : JobInstance) : Nat :=
  stage.jobs.members.countP fun k => k.isRunOnAllAgents && job.isSibling k

/-- The instances of the stage as they are when they are made to run again: the
indices of those for agents go on where they ended. -/
def againJobs (stage : Stage) : List JobInstance :=
  stage.jobs.members.map fun j => (j.shifted (stage.agentCount j)).markAsRerun

end Stage

/-- To shift the instances of a row is to number them from a later index on. -/
theorem map_shifted_agentRow {base : String} {plan : JobPlan} {now : Instant} (hb : base ≠ "")
    (n : Nat) : ∀ (last : Nat) (agents : List Agent),
      (∀ j ∈ agentRow base plan now last agents, j.IndexFits) →
        (agentRow base plan now last agents).map (JobInstance.shifted n) =
          agentRow base plan now (n + last) agents
  | _, [], _ => rfl
  | last, agent :: rest, hf => by
    obtain ⟨hfirst, hrest⟩ := List.forall_mem_cons.mp hf
    obtain ⟨hbase, hindex⟩ := JobInstance.parts_agentInstance hb hfirst
    have hshift : (agentInstance plan now (instanceName base .runOnAllAgents (last + 1))
        agent).shifted n =
          agentInstance plan now (instanceName base .runOnAllAgents (n + last + 1)) agent := by
      rw [JobInstance.shifted, hindex, hbase]
      rfl
    rw [agentRow, List.map_cons, hshift, map_shifted_agentRow hb n (last + 1) rest hrest]
    rfl

/-- The indices of instances with the roles of a row. -/
theorem filterMap_index?_agentRow {base : String} {plan : JobPlan} {now : Instant}
    (hb : base ≠ "") : ∀ {last : Nat} {agents : List Agent} {row : List JobInstance},
      List.Forall₂ JobInstance.SameRole (agentRow base plan now last agents) row →
        (∀ j ∈ row, j.IndexFits) →
          row.filterMap (·.index?) = List.range' (last + 1) agents.length
  | _, [], _, .nil, _ => rfl
  | last, agent :: rest, j :: row, .cons hj hrow, hf => by
    obtain ⟨hfirst, hrest⟩ := List.forall_mem_cons.mp hf
    have hr : j.runType = .runOnAllAgents := hj.runType
    have hne : j.runType ≠ .single := by
      rw [hr]
      exact nofun
    have hn : j.name = instanceName base j.runType (last + 1) := by
      rw [hr]
      exact hj.name
    have hindex := (JobInstance.baseName_of_name hb hne hn (hfirst base _ hne hn)).2
    rw [List.filterMap_cons, hindex, filterMap_index?_agentRow hb hrow hrest, List.length_cons,
      List.range'_succ]

theorem length_agentRow (base : String) (plan : JobPlan) (now : Instant) :
    ∀ (last : Nat) (agents : List Agent),
      (agentRow base plan now last agents).length = agents.length
  | _, [] => rfl
  | last, agent :: rest => by
    rw [agentRow, List.length_cons, length_agentRow base plan now (last + 1) rest, List.length_cons]

namespace Scheduling

variable {s : Scheduling} {stageName : String} {job : JobConfig}

/-- The roles of instances do not depend on the time. -/
theorem forall₂_sameRole_agentRow (base : String) (plan : JobPlan) (t now : Instant) :
    ∀ (last : Nat) (agents : List Agent), List.Forall₂ JobInstance.SameRole
      (agentRow base plan t last agents) (agentRow base plan now last agents)
  | _, [] => .nil
  | last, _ :: rest =>
    .cons ⟨rfl, rfl, rfl⟩ (forall₂_sameRole_agentRow base plan t now (last + 1) rest)

theorem forall₂_sameRole_expansion (s : Scheduling) (stageName : String) (t now : Instant)
    (job : JobConfig) : List.Forall₂ JobInstance.SameRole (s.expansion stageName t job)
      (s.expansion stageName now job) := by
  cases hr : job.runType with
  | single =>
    rw [expansion_of_single hr, expansion_of_single hr]
    exact .cons ⟨rfl, rfl, rfl⟩ .nil
  | runOnAllAgents =>
    rw [expansion_of_runOnAllAgents hr, expansion_of_runOnAllAgents hr]
    exact forall₂_sameRole_agentRow ..
  | runMultipleInstance =>
    rw [expansion_of_runMultiple hr, expansion_of_runMultiple hr, List.forall₂_map_left_iff,
      List.forall₂_map_right_iff, List.forall₂_same]
    exact fun _ _ => ⟨rfl, rfl, rfl⟩

theorem expansion_ne_nil {now : Instant} (hc : s.CanExpand job) :
    s.expansion stageName now job ≠ [] := by
  cases hr : job.runType with
  | single =>
    rw [expansion_of_single hr]
    exact List.cons_ne_nil _ _
  | runOnAllAgents =>
    obtain ⟨agent, rest, ha⟩ := List.exists_cons_of_ne_nil (hc hr)
    rw [expansion_of_runOnAllAgents hr, ha, agentRow]
    exact List.cons_ne_nil _ _
  | runMultipleInstance =>
    have hpos := job.runInstanceCount_pos hr
    rw [expansion_of_runMultiple hr, ne_eq, List.map_eq_nil_iff, List.range_eq_nil]
    omega

end Scheduling

/-! ### The row of a job -/

section Row

variable {s : Scheduling} {config : StageConfig} {old : Stage} {job : JobConfig} {t now : Instant}
  {g : RerunGroup} {fresh : List JobInstance}

theorem jobPlan_forRerun (h : old.name = config.name) :
    (s.forRerun config).jobPlan old.name job =
      (s.withVariables config.environment).jobPlan config.name job := by
  rw [h]
  rfl

namespace RerunGroup

/-- If no instance of the job stays, no agent is busy. -/
theorem freeAgents_eq_matching (h : g.agentSiblings old = g.members) :
    g.freeAgents old job s = s.matching job.resources := by
  have hbusy : ∀ id, id ∉ g.busyAgents old := by
    intro id hid
    obtain ⟨k, hk, hhas, _⟩ := mem_busyAgents.mp hid
    rw [h] at hk
    rw [has_of_mem hk] at hhas
    cases hhas
  refine List.filter_eq_self.mpr fun agent _ => ?_
  simp [hbusy]

/-- The highest index in a row is the number of its instances. -/
theorem highestIndex_eq_length {base : String} {plan : JobPlan} {agents : List Agent}
    (hb : base ≠ "") (h : g.agentSiblings old = g.members)
    (hrow : List.Forall₂ JobInstance.SameRole (agentRow base plan t 0 agents) g.members)
    (hfits : ∀ j ∈ g.members, j.IndexFits) : g.highestIndex old = agents.length := by
  rw [highestIndex, h, filterMap_index?_agentRow hb hrow hfits, Lists.foldl_max_range']
  omega

/-- The new instances of a job that has its old instances selected are those that
instantiation would make, marked as a rerun and with higher indices. -/
theorem Renewal.eq_again (hname : old.name = config.name) (hne : job.name ≠ "")
    (hbase : g.base = job.name)
    (hrow : List.Forall₂ JobInstance.SameRole
      ((s.withVariables config.environment).expansion config.name t job) g.members)
    (hfits : ∀ j ∈ (s.withVariables config.environment).expansion config.name t job, j.IndexFits)
    (hsiblings : job.runType = .runOnAllAgents → g.agentSiblings old = g.members)
    (hf : g.Renewal old job (s.forRerun config) now fresh) :
    fresh.map JobInstance.markAsRerun =
      ((s.withVariables config.environment).expansion config.name now job).map fun j =>
        (j.shifted (s.matching job.resources).length).markAsRerun := by
  have hplan : (s.forRerun config).jobPlan old.name job = _ := jobPlan_forRerun hname
  have hmembers : ∀ j ∈ g.members, j.IndexFits := by
    intro j hj
    obtain ⟨k, hk, hkj⟩ := Lists.exists_left hrow hj
    exact hkj.indexFits (hfits k hk)
  have hnow : ∀ j ∈ (s.withVariables config.environment).expansion config.name now job,
      j.IndexFits := by
    intro j hj
    obtain ⟨k, hk, hkj⟩ :=
      Lists.exists_left (Scheduling.forall₂_sameRole_expansion _ _ t now job) hj
    exact hkj.indexFits (hfits k hk)
  cases hf with
  | once _ hr =>
    rw [Scheduling.expansion_of_single hr, hplan, hbase]
    rfl
  | onSameAgent ht hr =>
    -- the old instance of a job that runs once ran once
    rw [Scheduling.expansion_of_single hr, members, List.forall₂_cons] at hrow
    rw [hrow.1.runType] at ht
    cases ht
  | onFreeAgents _ hr =>
    have hsib := hsiblings hr
    rw [Scheduling.expansion_of_runOnAllAgents hr] at hrow hnow ⊢
    have hfree : g.freeAgents old job (s.forRerun config) = s.matching job.resources :=
      freeAgents_eq_matching hsib
    rw [hplan, hbase, hfree, highestIndex_eq_length hne hsib hrow hmembers]
    have hshift := map_shifted_agentRow hne (s.matching job.resources).length 0 _ hnow
    calc _ = ((agentRow job.name _ now 0 (s.matching job.resources)).map
            (JobInstance.shifted (s.matching job.resources).length)).map
              JobInstance.markAsRerun := congrArg (List.map JobInstance.markAsRerun) hshift.symm
      _ = _ := List.map_map
  | atIndices _ hr =>
    rw [Scheduling.expansion_of_runMultiple hr] at hrow hfits ⊢
    rw [List.forall₂_map_left_iff] at hrow
    rw [hplan, hbase, List.map_map, List.map_map]
    refine (Lists.map_eq_of_forall₂ hrow fun i hi j _ hij => ?_).symm
    -- an old instance keeps the index that it was named by
    have hfit := hfits _ (List.mem_map_of_mem hi)
    simp only [Function.comp_apply]
    rw [hij.index?, JobInstance.index?_runInstance hne hfit]
    rfl

end RerunGroup
end Row

/-! ### Row by row -/

section Rows

variable {s : Scheduling} {config : StageConfig} {old : Stage} {request : List String}
  {t now : Instant} {job : JobConfig} {rs : List Replacement}

theorem baseName_of_mem_expansion {stageName : String} (hne : job.name ≠ "") {j : JobInstance}
    (hj : j ∈ s.expansion stageName t job) (hfit : j.IndexFits) : j.baseName = job.name := by
  obtain ⟨i, hi⟩ := Scheduling.exists_fills hj
  exact (hi.named.parts hne hfit).1

/-- The stage has the instances of the configured jobs, one job after the other,
as they were made at a time; what became of them since does not matter. -/
structure Stage.HasRows (old : Stage) (s : Scheduling) (config : StageConfig) (t : Instant) :
    Prop where
  nonempty : ∀ job ∈ config.jobs, job.name ≠ ""
  differ : config.jobs.Pairwise fun a b => Text.sameName a.name b.name = false
  canExpand : ∀ job ∈ config.jobs, s.CanExpand job
  fits : ∀ j ∈ s.expansions config t, j.IndexFits
  roles : List.Forall₂ JobInstance.SameRole (s.expansions config t) old.jobs.members

namespace Stage.HasRows

theorem baseName_eq (h : old.HasRows s config t) (hjob : job ∈ config.jobs) {j : JobInstance}
    (hj : j ∈ (s.withVariables config.environment).expansion config.name t job) :
    j.baseName = job.name :=
  baseName_of_mem_expansion (h.nonempty job hjob) hj
    (h.fits j (List.mem_flatMap.mpr ⟨job, hjob, hj⟩))

/-- The instances of a job in the stage have the roles of its expansion. -/
theorem forall₂_row (h : old.HasRows s config t) (hjob : job ∈ config.jobs) :
    List.Forall₂ JobInstance.SameRole
      ((s.withVariables config.environment).expansion config.name t job)
      (old.jobs.members.filter fun j => Text.sameName job.name j.baseName) := by
  have hsymm : ∀ a b : JobConfig, Text.sameName a.name b.name = false →
      Text.sameName b.name a.name = false := fun _ _ => Text.sameName_false_symm
  have hfilter := Lists.forall₂_filter (p := fun j => Text.sameName job.name j.baseName)
    (q := fun j => Text.sameName job.name j.baseName) h.roles fun a b hab => by rw [hab.baseName]
  rw [Scheduling.expansions, List.filter_flatMap,
    Lists.flatMap_eq_of_mem hsymm h.differ hjob fun x hx hd => ?_] at hfilter
  · rwa [List.filter_eq_self.mpr fun j hj => ?_] at hfilter
    rw [h.baseName_eq hjob hj]
    exact Text.sameName_self _
  · rw [List.filter_eq_nil_iff]
    intro j hj
    rw [h.baseName_eq hx hj, hd]
    exact Bool.false_ne_true

/-- If everything is selected, the instances of a job are a group. -/
theorem exists_group (h : old.HasRows s config t) (hjob : job ∈ config.jobs)
    (hsel : ∀ j ∈ old.jobs.members, old.selects request j = true) :
    ∃ g ∈ old.groups request, g.base = job.name ∧
      g.members = old.jobs.members.filter fun j => Text.sameName job.name j.baseName := by
  have hrow := h.forall₂_row hjob
  have hnil : (s.withVariables config.environment).expansion config.name t job ≠ [] :=
    Scheduling.expansion_ne_nil (h.canExpand job hjob)
  obtain ⟨k, hk⟩ := List.exists_mem_of_ne_nil _ hnil
  obtain ⟨j, hj, _⟩ := Lists.exists_right hrow hk
  obtain ⟨hjin, hjb⟩ := List.mem_filter.mp hj
  have hselected : old.selected request = old.jobs.members := List.filter_eq_self.mpr hsel
  obtain ⟨g, hg, hgj⟩ := RerunGroup.exists_mem_ofInstances (hselected ▸ hjin)
  have hmembers : g.members = old.jobs.members.filter fun j =>
      Text.sameName job.name j.baseName := by
    rw [RerunGroup.members_eq_filter hg, hselected]
    refine List.filter_congr fun m _ => ?_
    rw [Text.sameName_congr hjb, JobInstance.isSibling_congr hgj]
    rfl
  refine ⟨g, hg, ?_, hmembers⟩
  have hfirst : g.first ∈ g.members := List.mem_cons_self
  rw [hmembers] at hfirst
  obtain ⟨m, hm, hmg⟩ := Lists.exists_left hrow hfirst
  rw [RerunGroup.base, hmg.baseName, h.baseName_eq hjob hm]

/-- All instances of a job for all agents ran on one. -/
theorem isRunOnAllAgents (h : old.HasRows s config t) (hjob : job ∈ config.jobs)
    (hr : job.runType = .runOnAllAgents) {j : JobInstance} (hj : j ∈ old.jobs.members)
    (hs : Text.sameName job.name j.baseName = true) : j.isRunOnAllAgents = true := by
  obtain ⟨k, hk, hkj⟩ := Lists.exists_left (h.forall₂_row hjob) (List.mem_filter.mpr ⟨hj, hs⟩)
  obtain ⟨i, hi⟩ := Scheduling.exists_fills hk
  have ht : j.runType = .runOnAllAgents := hkj.runType.trans (hi.named.runType_eq.trans hr)
  rw [JobInstance.isRunOnAllAgents, ht]
  rfl

/-- The instances of a job for all agents are its group. -/
theorem agentSiblings_eq (h : old.HasRows s config t) (hjob : job ∈ config.jobs)
    {g : RerunGroup} (hbase : g.base = job.name)
    (hmembers : g.members = old.jobs.members.filter fun j => Text.sameName job.name j.baseName)
    (hr : job.runType = .runOnAllAgents) : g.agentSiblings old = g.members := by
  rw [hmembers, RerunGroup.agentSiblings, hbase]
  refine List.filter_congr fun j hj => ?_
  rw [Text.sameName_comm j.baseName]
  by_cases hs : Text.sameName job.name j.baseName = true
  · rw [h.isRunOnAllAgents hjob hr hj hs, Bool.true_and]
  · rw [Bool.eq_false_iff.mpr hs, Bool.and_false]

/-- A job for all agents has an instance for each that matches. -/
theorem agentCount_eq (h : old.HasRows s config t) (hjob : job ∈ config.jobs)
    (hr : job.runType = .runOnAllAgents) {j : JobInstance} (hj : j.baseName = job.name) :
    old.agentCount j = (s.matching job.resources).length := by
  have hfilter : (old.jobs.members.filter fun k => k.isRunOnAllAgents && j.isSibling k) =
      old.jobs.members.filter fun k => Text.sameName job.name k.baseName := by
    refine List.filter_congr fun k hk => ?_
    rw [JobInstance.isSibling, hj]
    by_cases hs : Text.sameName job.name k.baseName = true
    · rw [h.isRunOnAllAgents hjob hr hk hs, Bool.true_and]
    · rw [Bool.eq_false_iff.mpr hs, Bool.and_false]
  rw [Stage.agentCount, List.countP_eq_length_filter, hfilter, ← (h.forall₂_row hjob).length_eq,
    Scheduling.expansion_of_runOnAllAgents hr, length_agentRow]
  rfl

/-- The instances of the stage run again are those of its jobs, each row with
indices that are higher by its length. -/
theorem againJobs_eq (h : old.HasRows s config t)
    (hjobs : old.jobs.members = s.expansions config t) :
    old.againJobs = config.jobs.flatMap fun job =>
      ((s.withVariables config.environment).expansion config.name t job).map fun j =>
        (j.shifted (s.matching job.resources).length).markAsRerun := by
  rw [Stage.againJobs, hjobs, Scheduling.expansions, List.map_flatMap]
  refine List.flatMap_congr fun job hjob => List.map_congr_left fun j hj => ?_
  by_cases hr : job.runType = .runOnAllAgents
  · rw [h.agentCount_eq hjob hr (h.baseName_eq hjob hj)]
  · obtain ⟨i, hi⟩ := Scheduling.exists_fills hj
    have ht : j.runType ≠ .runOnAllAgents := by
      rw [hi.named.runType_eq]
      exact hr
    rw [JobInstance.shifted_of_ne ht, JobInstance.shifted_of_ne ht]

/-- For each job there is a replacement, which lays down the instances that
instantiation would make now, with higher indices. -/
theorem exists_replacement (h : old.HasRows s config t) (hname : old.name = config.name)
    (hsel : ∀ j ∈ old.jobs.members, old.selects request j = true)
    (hrs : ReplacedGroups old request config s now rs) (hjob : job ∈ config.jobs) :
    ∃ r ∈ rs, r.base = job.name ∧
      r.pieces 0 ((s.withVariables config.environment).expansion config.name t job).length =
        ((s.withVariables config.environment).expansion config.name now job).map fun j =>
          (j.shifted (s.matching job.resources).length).markAsRerun := by
  obtain ⟨g, hg, hbase, hmembers⟩ := h.exists_group hjob hsel
  obtain ⟨r, hr, hgr⟩ := hrs.exists_replacement hg
  have hrow := h.forall₂_row hjob
  rw [← hmembers] at hrow
  refine ⟨r, hr, hgr.base_eq.trans hbase, ?_⟩
  rw [hrow.length_eq, hgr.pieces_eq_jobs]
  obtain ⟨job', fresh, hc, hf, rfl⟩ := hgr
  rw [hbase, StageConfig.job?_name h.differ hjob] at hc
  cases hc
  exact hf.eq_again hname (h.nonempty job hjob) hbase hrow
    (fun j hj => h.fits j (List.mem_flatMap.mpr ⟨job, hjob, hj⟩))
    (h.agentSiblings_eq hjob hbase hmembers)

end Stage.HasRows

/-- Rows of selected instances are replaced row by row. -/
theorem mergeReplacements_rows {isSelected : JobInstance → Bool} {keep : JobInstance → JobInstance}
    {row again : JobConfig → List JobInstance}
    (hrs : rs.Pairwise fun r t => Text.sameName r.base t.base = false) :
    ∀ {jobs : List JobConfig} {js earlier : List JobInstance},
      (jobs.Pairwise fun a b => Text.sameName a.name b.name = false) →
      (∀ x ∈ jobs, ∀ j ∈ row x, j.baseName = x.name) →
      (∀ x ∈ jobs, ∃ r ∈ rs, r.base = x.name ∧ r.pieces 0 (row x).length = again x) →
      List.Forall₂ JobInstance.SameRole (jobs.flatMap row) js →
      (∀ j ∈ js, isSelected j = true) →
      (∀ x ∈ jobs, ∀ j ∈ earlier, Text.sameName x.name j.baseName = false) →
        mergeReplacements isSelected keep rs earlier js = jobs.flatMap again
  | [], _, _, _, _, _, h, _, _ => by
    cases h
    rfl
  | x :: jobs, js, earlier, hd, hbase, hagain, h, hsel, hearlier => by
    obtain ⟨hx, hd⟩ := List.pairwise_cons.mp hd
    obtain ⟨hbx, hbase⟩ := List.forall_mem_cons.mp hbase
    obtain ⟨⟨r, hr, hrb, hpieces⟩, hagain⟩ := List.forall_mem_cons.mp hagain
    obtain ⟨hex, hearlier⟩ := List.forall_mem_cons.mp hearlier
    obtain ⟨us, vs, rfl, hus, hvs⟩ := Lists.forall₂_append_left h
    have hub : ∀ j ∈ us, j.baseName = x.name := by
      intro j hj
      obtain ⟨k, hk, hkj⟩ := Lists.exists_left hus hj
      rw [hkj.baseName, hbx k hk]
    have hrow : ∀ j ∈ us, isSelected j = true ∧ r.covers j = true := by
      intro j hj
      refine ⟨hsel j (List.mem_append_left _ hj), ?_⟩
      rw [Replacement.covers, hrb, hub j hj]
      exact Text.sameName_self _
    have hcount : earlier.countP r.covers = 0 := by
      rw [List.countP_eq_zero]
      intro j hj
      rw [Replacement.covers, hrb, hex j hj]
      exact Bool.false_ne_true
    have hrest : mergeReplacements isSelected keep rs (us.reverse ++ earlier) vs =
        jobs.flatMap again := by
      refine mergeReplacements_rows hrs hd hbase hagain hvs
        (fun j hj => hsel j (List.mem_append_right _ hj)) fun y hy j hj => ?_
      rcases List.mem_append.mp hj with hj | hj
      · rw [hub j (List.mem_reverse.mp hj), Text.sameName_comm]
        exact hx y hy
      · exact hearlier y hy j hj
    rw [mergeReplacements_append hr hrs vs us earlier hrow, hcount, ← hus.length_eq, hpieces,
      hrest, List.flatMap_cons]

end Rows

/-! ### The whole stage -/

namespace Scheduling

variable {s : Scheduling} {config : StageConfig} {S done R : Stage} {v₀ v : String}
  {t now : Instant}

/-- If all instances of an instantiated stage have ended and all are rerun, the
new stage is the one that instantiation makes at that time, but for its
instances, which are made to run again, and the counters. -/
theorem rerun_whole (hne : ∀ job ∈ config.jobs, job.name ≠ "")
    (hd : config.jobs.Pairwise fun a b => Text.sameName a.name b.name = false)
    (hS : s.instantiate config v₀ t = .ok S) (hfits : ∀ j ∈ S.jobs.members, j.IndexFits)
    (hdone : S.EndsAs done) (hR : s.rerun done S.jobs.names config v now = .ok R) :
    ∃ F, s.instantiate config v now = .ok F ∧
      R = { F with jobs := ⟨F.againJobs⟩, counter := S.counter + 1,
                   rerunOfCounter := some S.counter } := by
  obtain ⟨hexpand, hnames, rfl⟩ := instantiate_eq_ok.mp hS
  obtain ⟨-, -, rs, hrs, -, rfl⟩ := rerun_eq_ok.mp hR
  have hroles : List.Forall₂ JobInstance.SameRole (s.expansions config t) done.jobs.members :=
    hdone.sameRoles
  have htime : List.Forall₂ JobInstance.SameRole (s.expansions config t)
      (s.expansions config now) :=
    Lists.forall₂_flatMap fun job _ => forall₂_sameRole_expansion _ _ t now job
  have hfits' : ∀ j ∈ s.expansions config now, j.IndexFits := by
    intro j hj
    obtain ⟨k, hk, hkj⟩ := Lists.exists_left htime hj
    exact hkj.indexFits (hfits k hk)
  have hnames' : NamesDiffer (s.expansions config now) :=
    Lists.pairwise_of_forall₂ htime (fun _ _ _ _ => JobInstance.SameRole.nameDiffers) hnames
  have hrows : done.HasRows s config t := ⟨hne, hd, hexpand, hfits, hroles⟩
  -- everything is selected
  have hsel : ∀ j ∈ done.jobs.members,
      done.selects (s.freshStage config v₀ t (s.expansions config t)).jobs.names j = true := by
    intro j hj
    obtain ⟨k, hk, hkj⟩ := Lists.exists_left hroles hj
    refine (Stage.selects_iff hj).mpr ⟨k.name, List.mem_map_of_mem hk, .inl ?_⟩
    rw [hkj.name]
    exact Text.sameName_self _
  obtain ⟨jobs, _, rfl⟩ := hdone
  refine ⟨_, instantiate_eq_ok.mpr ⟨hexpand, hnames', rfl⟩, ?_⟩
  have hfresh : (s.freshStage config v now (s.expansions config now)).HasRows s config now :=
    ⟨hne, hd, hexpand, hfits', List.forall₂_same.mpr fun _ _ => ⟨rfl, rfl, rfl⟩⟩
  rw [hfresh.againJobs_eq rfl, Stage.merged, mergeReplacements_rows hrs.pairwise_base hd
    (fun job hjob j hj => hrows.baseName_eq hjob hj)
    (fun job hjob => hrows.exists_replacement rfl hsel hrs hjob) hroles hsel
    fun _ _ _ hj => absurd hj List.not_mem_nil]
  rfl

/-- All instances of the run on two agents are made anew, those for agents with
the indices 3 and 4. -/
theorem rerun_whole_passedOnTwoAgents : ∃ R F,
    twoAgents.rerun passedOnTwoAgents onTwoAgents.jobs.names agentsAndOnce "2" ⟨2, 0⟩ = .ok R ∧
      twoAgents.instantiate agentsAndOnce "2" ⟨2, 0⟩ = .ok F ∧
        R = { F with jobs := ⟨F.againJobs⟩, counter := 2, rerunOfCounter := some 1 } := by
  obtain ⟨R, hR⟩ : ∃ R, twoAgents.rerun passedOnTwoAgents onTwoAgents.jobs.names agentsAndOnce
      "2" ⟨2, 0⟩ = .ok R :=
    Outcome.exists_of_isOk (by decide +kernel)
  obtain ⟨F, hF, h⟩ := rerun_whole (by decide +kernel) (by decide +kernel)
    instantiate_agentsAndOnce indexFits_onTwoAgents (onTwoAgents.completeAll_endsAs _ _) hR
  exact ⟨R, F, hR, hF, h⟩

end Scheduling
end StageRuns
