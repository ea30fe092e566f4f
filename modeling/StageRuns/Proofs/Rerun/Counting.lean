/-
# How many instances are made anew

For a job that does not run on all agents now, a rerun makes as many new
instances as the request selects of the old ones, with one exception: if the
first of several selected instances ran once, all of them make way for a single
new one. A job that runs on all agents now has a new instance whenever one of
its old ones is selected. Both are in `Scheduling.length_madeAnew_iff`.

The exception is met when a job that ran on all agents is configured to run
once: after one of its instances ran again, the stage holds that instance
besides copies of the others.

Key definitions: `Stage.NamelessRunOnce`, `Stage.selectedOf`,
`Stage.madeAnew`, `Stage.Collapses`.
Key theorems: `Stage.Reached.namelessRunOnce`,
`Scheduling.length_madeAnew_iff`.
-/
import StageRuns.Proofs.NamedJobs
import StageRuns.Proofs.Rerun.Copies

namespace StageRuns

/-! ### Instances without a name -/

/-- An instance without a name is not numbered. -/
def Stage.NamelessRunOnce (stage : Stage) : Prop :=
  ∀ j ∈ stage.jobs.members, j.name = "" → j.runType = .single

namespace Scheduling

variable {s : Scheduling} {config : StageConfig} {configVersion : String} {now : Instant}

theorem namelessRunOnce_instantiate {stage : Stage}
    (h : s.instantiate config configVersion now = .ok stage) : stage.NamelessRunOnce := by
  obtain ⟨-, -, rfl⟩ := instantiate_eq_ok.mp h
  intro j hj hn
  obtain ⟨job, _, hj⟩ := List.mem_flatMap.mp hj
  obtain ⟨i, hi⟩ := exists_fills hj
  cases hi.named with
  | once _ ht => exact ht
  | numbered _ _ hk =>
    rw [hk] at hn
    exact absurd hn (instanceName_ne_empty _ _ _)

theorem namelessRunOnce_rerun {old new : Stage} {request : List String}
    (hold : old.NamelessRunOnce) (h : s.rerun old request config configVersion now = .ok new) :
    new.NamelessRunOnce := by
  obtain ⟨-, -, rs, hrs, -, rfl⟩ := rerun_eq_ok.mp h
  intro j hj hn
  rcases mem_mergeReplacements hj with ⟨k, hk, _, rfl⟩ | ⟨r, hr, hj⟩
  · have hcopy := config.isCopyOf_keep k
    rw [hcopy.runType]
    exact hold k hk (hcopy.name.symm.trans hn)
  · obtain ⟨g, _, job, fresh, _, hf, rfl⟩ := hrs.exists_group hr
    obtain ⟨i, hi, rfl⟩ := List.mem_map.mp hj
    have ht : i.runType = job.runType := hf.runType_eq hi
    by_cases hs : job.runType = .single
    · exact ht.trans hs
    · obtain ⟨k, hk, _⟩ := hf.exists_index hi hs
      have hi : instanceName g.base job.runType k = "" := hk.symm.trans hn
      exact absurd hi (instanceName_ne_empty _ _ _)

end Scheduling

theorem Stage.Reached.namelessRunOnce {allowed : Scheduling → StageConfig → Stage → Prop}
    {stage : Stage} (h : stage.Reached allowed) : stage.NamelessRunOnce := by
  refine h.invariant (fun a b ha hab j hj hn => ?_)
    (fun _ _ _ _ _ hi _ => Scheduling.namelessRunOnce_instantiate hi)
    (fun _ _ _ _ _ _ _ hold hr _ => Scheduling.namelessRunOnce_rerun hold hr)
  obtain ⟨k, hk, hkj⟩ := Lists.exists_left hab hj
  rw [hkj.runType]
  exact ha k hk (hkj.name.symm.trans hn)

/-! ### Counting -/

/-- The instance was made to run the job of a base name again, with a run type. -/
def JobInstance.RunsAgain (job : JobInstance) (base : String) (runType : RunType) : Prop :=
  job.isRerun = true ∧ job.runType = runType ∧ Text.sameName base job.baseName = true

instance (job : JobInstance) (base : String) (runType : RunType) :
    Decidable (job.RunsAgain base runType) :=
  inferInstanceAs (Decidable (_ ∧ _))

/-- What stays of an instance does not run again. -/
theorem StageConfig.not_runsAgain_keep (config : StageConfig) (job : JobInstance) (base : String)
    (runType : RunType) : ¬ (config.keep job).RunsAgain base runType := by
  rintro ⟨h, -⟩
  obtain ⟨agent, hk⟩ := config.exists_keep_eq job
  rw [hk] at h
  cases h

namespace Stage

/-- The instances of the job of a base name that the request selects. -/
def selectedOf (old : Stage) (request : List String) (base : String) : List JobInstance :=
  old.jobs.members.filter fun j => old.Selects request j ∧ Text.sameName base j.baseName = true

/-- The instances that were made to run the job of a base name again. -/
def madeAnew (new : Stage) (base : String) (runType : RunType) : List JobInstance :=
  new.jobs.members.filter fun j => j.RunsAgain base runType

/-- Several instances of the job of a base name are selected, and the first of
them ran once. -/
def Collapses (old : Stage) (request : List String) (base : String) : Prop :=
  ∃ first second more,
    old.selectedOf request base = first :: second :: more ∧ first.runType = .single

variable {old : Stage} {request : List String} {base : String}

/-- The selected instances of a job are the group of the job. -/
theorem selectedOf_eq_members {g : RerunGroup} (hg : g ∈ old.groups request)
    (hb : Text.sameName base g.base = true) : old.selectedOf request base = g.members := by
  rw [RerunGroup.members_eq_filter hg, selected, List.filter_filter]
  refine List.filter_congr fun j hj => ?_
  rw [Bool.eq_iff_iff, decide_eq_true_iff, Bool.and_eq_true, Stage.selects_iff hj, and_comm,
    Text.sameName_congr hb]
  rfl

/-- If an instance of a job is selected, there is a group of the job. -/
theorem exists_group_of_mem {j : JobInstance} (hj : j ∈ old.selectedOf request base) :
    ∃ g ∈ old.groups request, Text.sameName base g.base = true := by
  obtain ⟨hj, hs⟩ := List.mem_filter.mp hj
  rw [decide_eq_true_iff] at hs
  obtain ⟨g, hg, hgj⟩ := exists_group_of_selects hj hs.1
  rw [Text.sameName_comm] at hgj
  exact ⟨g, hg, Text.sameName_trans hs.2 hgj⟩

theorem collapses_iff {g : RerunGroup} (hg : g ∈ old.groups request)
    (hb : Text.sameName base g.base = true) :
    old.Collapses request base ↔ g.first.runType = .single ∧ g.others ≠ [] := by
  unfold Collapses
  rw [selectedOf_eq_members hg hb, RerunGroup.members]
  constructor
  · rintro ⟨first, second, more, h, hf⟩
    obtain ⟨rfl, ho⟩ := List.cons.inj h
    exact ⟨hf, by rw [ho]; exact List.cons_ne_nil _ _⟩
  · rintro ⟨hf, ho⟩
    obtain ⟨second, more, ho⟩ := List.exists_cons_of_ne_nil ho
    exact ⟨g.first, second, more, by rw [ho], hf⟩

end Stage

section Count

variable {old new : Stage} {request : List String} {config : StageConfig} {s : Scheduling}
  {configVersion : String} {now : Instant} {rs : List Replacement} {base : String}
  {job : JobConfig}

namespace RerunGroup.ReplacedBy

variable {g : RerunGroup} {r : Replacement}

/-- The new instances of a group were all made of the job of the group, and of
no other job. -/
theorem filter_jobs (h : g.ReplacedBy old config s now r)
    (hg : g.base = "" → g.first.runType = .single) (hc : config.job? base = some job)
    (hne : job.runType ≠ .runOnAllAgents) :
    (r.jobs.filter fun j => j.RunsAgain base job.runType) =
      if Text.sameName base r.base then r.jobs else [] := by
  rw [h.base_eq]
  by_cases hb : Text.sameName base g.base = true
  · rw [if_pos hb, List.filter_eq_self]
    intro j hj
    rw [config.job?_congr hb] at hc
    obtain ⟨ht, hbase⟩ := h.baseName_eq hg hc hne hj
    rw [decide_eq_true_iff, JobInstance.RunsAgain, hbase]
    exact ⟨(h.scheduledAt hj).isRerun, ht, hb⟩
  · rw [if_neg hb, List.filter_eq_nil_iff]
    intro j hj
    rw [decide_eq_true_iff]
    rintro ⟨-, ht, hbase⟩
    obtain ⟨job', fresh, hc', hf, rfl⟩ := id h
    have ht' : j.runType = job'.runType := by
      obtain ⟨k, hk, rfl⟩ := List.mem_map.mp hj
      show k.runType = job'.runType
      exact hf.runType_eq hk
    have hne' : job'.runType ≠ .runOnAllAgents := by
      rw [← ht', ht]
      exact hne
    rw [(h.baseName_eq hg hc' hne' hj).2] at hbase
    exact hb hbase

/-- A group that ran once is replaced by one instance; of any other group, each
instance is replaced. -/
theorem length_jobs (h : g.ReplacedBy old config s now r) (hc : config.job? g.base = some job)
    (hne : job.runType ≠ .runOnAllAgents) :
    r.jobs.length = if g.first.runType = .single then 1 else g.members.length := by
  obtain ⟨job', fresh, hc', hf, rfl⟩ := h
  rw [hc] at hc'
  cases hc'
  rw [List.length_map]
  cases hf with
  | once hf => rw [if_pos hf, List.length_singleton]
  | onSameAgent hf _ ho =>
    rw [if_neg (by rw [hf]; decide), List.length_singleton, members, ho, List.length_singleton]
  | onFreeAgents _ hr => exact absurd hr hne
  | atIndices hf => rw [if_neg (by rw [hf]; decide), List.length_map]

end RerunGroup.ReplacedBy

namespace ReplacedGroups

/-- The new instances of a job are those of the replacements for it. -/
theorem madeAnew_perm (h : ReplacedGroups old request config s now rs)
    (hnew : new.jobs.members = old.merged request config rs) (hold : old.NamelessRunOnce)
    (hc : config.job? base = some job) (hne : job.runType ≠ .runOnAllAgents) :
    (new.madeAnew base job.runType).Perm
      (rs.flatMap fun r => if Text.sameName base r.base then r.jobs else []) := by
  have hperm := h.merged_perm.filter fun j => j.RunsAgain base job.runType
  rw [← hnew, List.filter_append] at hperm
  have hcopies : ((old.copies request config).filter fun j => j.RunsAgain base job.runType) =
      [] := by
    rw [List.filter_eq_nil_iff]
    intro j hj
    obtain ⟨k, _, rfl⟩ := List.mem_map.mp hj
    rw [decide_eq_true_iff]
    exact config.not_runsAgain_keep k base job.runType
  have hfresh : ((rs.flatMap fun r => r.jobs).filter fun j => j.RunsAgain base job.runType) =
      rs.flatMap fun r => if Text.sameName base r.base then r.jobs else [] := by
    rw [List.filter_flatMap]
    refine List.flatMap_congr fun r hr => ?_
    obtain ⟨g, hg, hgr⟩ := h.exists_group hr
    refine hgr.filter_jobs (fun hb => ?_) hc hne
    exact hold g.first (Stage.first_mem_of_mem_groups hg) (JobInstance.name_eq_empty hb)
  rw [hcopies, hfresh, List.nil_append] at hperm
  exact hperm

theorem flatMap_of_group (h : ReplacedGroups old request config s now rs) {g : RerunGroup}
    {r : Replacement} (hr : r ∈ rs) (hg : g.ReplacedBy old config s now r)
    (hb : Text.sameName base g.base = true) :
    (rs.flatMap fun r => if Text.sameName base r.base then r.jobs else []) = r.jobs := by
  rw [← hg.base_eq] at hb
  rw [Lists.flatMap_eq_of_mem (fun _ _ => Text.sameName_false_symm) h.pairwise_base hr
    fun t _ hd => ?_]
  · exact if_pos hb
  · rw [Text.sameName_congr hb, hd]
    exact if_neg Bool.false_ne_true

/-- Without selected instances of a job, there is no replacement for it. -/
theorem flatMap_of_selectedOf_eq_nil (h : ReplacedGroups old request config s now rs)
    (hnil : old.selectedOf request base = []) :
    (rs.flatMap fun r => if Text.sameName base r.base then r.jobs else []) = [] := by
  rw [List.flatMap_eq_nil_iff]
  intro r hr
  obtain ⟨g, hg, hgr⟩ := h.exists_group hr
  refine if_neg fun hb => ?_
  rw [hgr.base_eq] at hb
  rw [Stage.selectedOf_eq_members hg hb] at hnil
  cases hnil

/-- As many instances of a job are made anew as are selected, unless they
collapse to one. -/
theorem length_madeAnew (h : ReplacedGroups old request config s now rs)
    (hnew : new.jobs.members = old.merged request config rs) (hold : old.NamelessRunOnce)
    (hc : config.job? base = some job) (hne : job.runType ≠ .runOnAllAgents) :
    ((new.madeAnew base job.runType).length = (old.selectedOf request base).length ↔
      ¬ old.Collapses request base) ∧
      (old.Collapses request base → (new.madeAnew base job.runType).length = 1) := by
  rw [(h.madeAnew_perm hnew hold hc hne).length_eq]
  cases hsel : old.selectedOf request base with
  | nil =>
    have hno : ¬ old.Collapses request base := by
      rintro ⟨_, _, _, hcons, _⟩
      rw [hsel] at hcons
      cases hcons
    rw [h.flatMap_of_selectedOf_eq_nil hsel]
    exact ⟨⟨fun _ => hno, fun _ => rfl⟩, fun hcol => absurd hcol hno⟩
  | cons first more =>
    obtain ⟨g, hg, hb⟩ := Stage.exists_group_of_mem (hsel ▸ List.mem_cons_self)
    obtain ⟨r, hr, hgr⟩ := h.exists_replacement hg
    rw [h.flatMap_of_group hr hgr hb, hgr.length_jobs (config.job?_congr hb ▸ hc) hne,
      ← hsel, Stage.selectedOf_eq_members hg hb, Stage.collapses_iff hg hb]
    by_cases hf : g.first.runType = .single
    · rw [if_pos hf, RerunGroup.members, List.length_cons]
      have hlen : g.others = [] ↔ g.others.length = 0 := List.length_eq_zero_iff.symm
      refine ⟨⟨fun h1 hcol => hcol.2 (hlen.mpr (by omega)), fun hno => ?_⟩, fun _ => rfl⟩
      have : g.others.length = 0 := by
        rw [← hlen]
        exact not_not.mp fun hne => hno ⟨hf, hne⟩
      omega
    · rw [if_neg hf]
      simp [hf]

end ReplacedGroups

namespace Scheduling

/-- In a rerun of a stage of a chain, every selected instance belongs to a job
that is configured. If the job does not run on all agents, there are as many
new instances as selected ones exactly if these do not collapse, and one new
instance if they do. If it runs on all agents, there is a new instance. -/
theorem length_madeAnew_iff (hold : old.Reached fun _ _ _ => True)
    (h : s.rerun old request config configVersion now = .ok new) :
    (∀ base, old.selectedOf request base ≠ [] → ∃ job, config.job? base = some job) ∧
    (∀ base job, config.job? base = some job → job.runType ≠ .runOnAllAgents →
      ((new.madeAnew base job.runType).length = (old.selectedOf request base).length ↔
        ¬ old.Collapses request base) ∧
      (old.Collapses request base → (new.madeAnew base job.runType).length = 1) ∧
      ∀ j ∈ new.madeAnew base job.runType, j.ScheduledAt now) ∧
    (∀ base job, config.job? base = some job → job.runType = .runOnAllAgents →
      old.selectedOf request base ≠ [] → ∃ j ∈ new.jobs.members, j.ScheduledAt now ∧
        j.runType = .runOnAllAgents ∧
          ∃ b k, Text.sameName base b = true ∧ j.name = instanceName b .runOnAllAgents k) := by
  obtain ⟨-, -, rs, hrs, -, rfl⟩ := rerun_eq_ok.mp h
  have hgroup : ∀ base, old.selectedOf request base ≠ [] → ∃ (g : RerunGroup) (r : Replacement),
      r ∈ rs ∧ Text.sameName base g.base = true ∧ g.ReplacedBy old config s now r := by
    intro base hne
    obtain ⟨j, hj⟩ := List.exists_mem_of_ne_nil _ hne
    obtain ⟨g, hg, hb⟩ := Stage.exists_group_of_mem hj
    obtain ⟨r, hr, hgr⟩ := hrs.exists_replacement hg
    exact ⟨g, r, hr, hb, hgr⟩
  refine ⟨fun base hne => ?_, fun base job hc hne => ?_, fun base job hc hall hne => ?_⟩
  · obtain ⟨g, r, _, hb, job, _, hc, _⟩ := hgroup base hne
    exact ⟨job, by rw [config.job?_congr hb, hc]⟩
  · have hnew : (s.successor old configVersion now (old.merged request config rs)).jobs.members =
        old.merged request config rs := rfl
    obtain ⟨hiff, hone⟩ := hrs.length_madeAnew hnew hold.namelessRunOnce hc hne
    refine ⟨hiff, hone, fun j hj => ?_⟩
    obtain ⟨hj, hp⟩ := List.mem_filter.mp hj
    rw [decide_eq_true_iff] at hp
    refine hrs.scheduledAt_of_not_isCopy hj ?_
    have ho : j.origin = .rerun := by simpa [JobInstance.isRerun] using hp.1
    rw [JobInstance.isCopy, JobInstance.source?, ho]
    rfl
  · obtain ⟨g, r, hr, hb, hgr⟩ := hgroup base hne
    obtain ⟨job', fresh, hc', hf, rfl⟩ := id hgr
    rw [← config.job?_congr hb, hc] at hc'
    cases hc'
    obtain ⟨j, hj⟩ := List.exists_mem_of_ne_nil _ (hf.ne_nil)
    have hnew : j.markAsRerun ∈ fresh.map JobInstance.markAsRerun := List.mem_map_of_mem hj
    obtain ⟨k, hk, _⟩ := hf.exists_index hj (by rw [hall]; decide)
    refine ⟨j.markAsRerun, ?_, hf.scheduledAt hj, (hf.runType_eq hj).trans hall, g.base, k, hb,
      by rw [← hall]; exact hk⟩
    exact hrs.mem_merged hr hnew

end Scheduling
end Count

/-! ### A stage whose instances collapse -/

/-- The instance of job `a` on the first agent is run again, when the job runs
once by now; what ran on the second agent and job `b` are copied. -/
def firstAgentAgain : Stage :=
  twoAgents.successor passedOnTwoAgents "2" ⟨2, 0⟩
    (((singleInstance "a" ((twoAgents.forRerun bothOnce).jobPlan "test" { name := "a" })
        ⟨2, 0⟩).bindAgent ⟨"u1"⟩).markAsRerun ::
      (passedOnTwoAgents.jobs.members.drop 1).map bothOnce.keep)

/-- A stage with instances of job `a` of two run types. -/
def mixedRun : Stage := firstAgentAgain.completeAll .passed ⟨3, 0⟩

theorem mixedRun_reached_of {allowed : Scheduling → StageConfig → Stage → Prop}
    (hfirst : allowed twoAgents agentsAndOnce onTwoAgents)
    (hagain : allowed twoAgents bothOnce firstAgentAgain) : mixedRun.Reached allowed := by
  have hrerun : twoAgents.rerun passedOnTwoAgents ["a-runOnAll-1"] bothOnce "2" ⟨2, 0⟩ =
      .ok firstAgentAgain := by
    decide +kernel
  exact .ended (.rerun (passedOnTwoAgents_reached hfirst) hrerun hagain)
    (firstAgentAgain.completeAll_endsAs _ _)

theorem mixedRun_reached : mixedRun.Reached fun _ _ _ => True :=
  mixedRun_reached_of trivial trivial

namespace Scheduling

/-- The instances of the mixed stage that ran once are made anew one by one. -/
theorem length_madeAnew_mixedRun : ∃ new,
    twoAgents.rerun mixedRun ["A", "b"] bothOnce "3" ⟨4, 0⟩ = .ok new ∧
      (new.madeAnew "a" .single).length = (mixedRun.selectedOf ["A", "b"] "a").length := by
  obtain ⟨new, hnew⟩ : ∃ new,
      twoAgents.rerun mixedRun ["A", "b"] bothOnce "3" ⟨4, 0⟩ = .ok new :=
    Outcome.exists_of_isOk (by decide +kernel)
  have hone : (mixedRun.selectedOf ["A", "b"] "a").length = 1 := by decide +kernel
  have hno : ¬ mixedRun.Collapses ["A", "b"] "a" := by
    rintro ⟨_, _, _, h, _⟩
    rw [h] at hone
    cases hone
  obtain ⟨-, hcount, -⟩ := length_madeAnew_iff mixedRun_reached hnew
  exact ⟨new, hnew, (hcount "a" { name := "a" } rfl (by decide)).1.mpr hno⟩

/-- If both instances of job `a` are selected, one new instance takes the place
of both. -/
theorem length_madeAnew_lt_mixedRun : mixedRun.Reached (fun _ _ _ => True) ∧
    (mixedRun.selectedOf ["a", "a-runOnAll-2"] "a").length = 2 ∧
    (twoAgents.rerun mixedRun ["a", "a-runOnAll-2"] bothOnce "3" ⟨4, 0⟩).map
      (fun new => (new.madeAnew "a" .single).length) = .ok 1 :=
  ⟨mixedRun_reached, by decide +kernel, by decide +kernel⟩

end Scheduling
end StageRuns
