/-
# When a rerun succeeds, and with which stage

A rerun succeeds exactly if the old stage has ended, the request is accepted,
every group of selected instances is replaced and the names of the resulting
instances differ (`Scheduling.rerun_eq_ok`). These are, up to their order, the
copies of the instances that were not selected and all instances of the
replacements (`ReplacedGroups.merged_perm`).

Key definitions: `RerunGroup.ReplacedBy`, `Stage.groups`, `ReplacedGroups`,
`Stage.merged`, `Scheduling.successor`.
Key theorems: `ReplacedGroups.merged_perm`, `ReplacedGroups.pairwise_merged`,
`Scheduling.rerun_eq_ok`.
-/
import StageRuns.Proofs.Lists
import StageRuns.Proofs.Rerun.Merge

namespace StageRuns

/-- The replacement holds the instances of the group, made anew from the job
that is configured now. -/
def RerunGroup.ReplacedBy (g : RerunGroup) (old : Stage) (config : StageConfig) (s : Scheduling)
    (now : Instant) (r : Replacement) : Prop :=
  ∃ job fresh, config.job? g.base = some job ∧ g.Renewal old job (s.forRerun config) now fresh ∧
    r = ⟨g.base, fresh.map JobInstance.markAsRerun,
      g.first.runType == .runOnAllAgents && job.runType == .runOnAllAgents⟩

namespace RerunGroup.ReplacedBy

variable {g : RerunGroup} {old : Stage} {config : StageConfig} {s : Scheduling} {now : Instant}
  {r : Replacement}

theorem base_eq (h : g.ReplacedBy old config s now r) : r.base = g.base := by
  obtain ⟨_, _, _, _, rfl⟩ := h
  rfl

theorem scheduledAt (h : g.ReplacedBy old config s now r) {j : JobInstance} (hj : j ∈ r.jobs) :
    j.ScheduledAt now := by
  obtain ⟨_, _, _, hf, rfl⟩ := h
  obtain ⟨k, hk, rfl⟩ := List.mem_map.mp hj
  exact hf.scheduledAt hk

/-- New instances of a job that does not run on all agents know the name of the
job, unless an instance without a name was numbered. -/
theorem baseName_eq (h : g.ReplacedBy old config s now r)
    (hg : g.base = "" → g.first.runType = .single) {job : JobConfig}
    (hc : config.job? g.base = some job) (hne : job.runType ≠ .runOnAllAgents) {j : JobInstance}
    (hj : j ∈ r.jobs) : j.runType = job.runType ∧ j.baseName = g.base := by
  obtain ⟨job', fresh, hc', hf, rfl⟩ := h
  rw [hc] at hc'
  cases hc'
  obtain ⟨k, hk, rfl⟩ := List.mem_map.mp hj
  have ht : k.runType = job.runType := hf.runType_eq hk
  refine ⟨ht, ?_⟩
  show k.baseName = g.base
  cases hr : job.runType with
  | single => rw [JobInstance.baseName_of_single (ht.trans hr), hf.name_eq hk hr]
  | runOnAllAgents => exact absurd hr hne
  | runMultipleInstance =>
    have hbase : g.base ≠ "" := fun hb => by
      have := hg hb
      rw [hf.first_runType_iff.mpr hr] at this
      cases this
    have hrk : k.runType ≠ .single := by
      rw [ht, hr]
      exact nofun
    obtain ⟨i, hn, hi⟩ := hf.exists_index hk (by rw [← ht]; exact hrk)
    rw [← ht] at hn
    exact (JobInstance.baseName_of_name hbase hrk hn (hi hr)).1

/-- There is a place for each new instance. -/
theorem pieces_eq_jobs (h : g.ReplacedBy old config s now r) :
    r.pieces 0 g.members.length = r.jobs := by
  obtain ⟨_, fresh, _, hf, rfl⟩ := h
  refine Replacement.pieces_eq_jobs (fun _ => Nat.succ_ne_zero _) fun hb => ?_
  rw [List.length_map]
  exact hf.length_le hb

end RerunGroup.ReplacedBy

/-- The groups of the instances that a request selects. -/
def Stage.groups (old : Stage) (request : List String) : List RerunGroup :=
  RerunGroup.ofInstances (old.selected request)

/-- Each group is replaced by the replacement in its place. -/
def ReplacedGroups (old : Stage) (request : List String) (config : StageConfig) (s : Scheduling)
    (now : Instant) (rs : List Replacement) : Prop :=
  List.Forall₂ (fun g r => g.ReplacedBy old config s now r) (old.groups request) rs

/-- The instances of the new stage for given replacements. -/
def Stage.merged (old : Stage) (request : List String) (config : StageConfig)
    (rs : List Replacement) : List JobInstance :=
  mergeReplacements (old.selects request) config.keep rs [] old.jobs.members

/-- What stays of the instances that are not selected. -/
def Stage.copies (old : Stage) (request : List String) (config : StageConfig) :
    List JobInstance :=
  (old.jobs.members.filter fun j => !old.selects request j).map config.keep

variable {old : Stage} {request : List String} {config : StageConfig} {s : Scheduling}
  {now : Instant} {rs : List Replacement}

/-- Names that are the same belong to the same configured job. -/
theorem StageConfig.job?_congr (config : StageConfig) {a b : String}
    (h : Text.sameName a b = true) : config.job? a = config.job? b := by
  rw [job?, job?]
  congr 1
  funext job
  rw [Text.sameName_comm, Text.sameName_congr h, Text.sameName_comm]

namespace Stage

theorem mem_members_of_mem_groups {g : RerunGroup} (hg : g ∈ old.groups request)
    {j : JobInstance} : j ∈ g.members ↔
      (j ∈ old.jobs.members ∧ old.selects request j = true) ∧ g.first.isSibling j = true := by
  rw [RerunGroup.mem_members_iff hg, selected, List.mem_filter]

/-- A selected instance belongs to a group of its job. -/
theorem exists_group_of_selects {j : JobInstance} (hj : j ∈ old.jobs.members)
    (hs : old.Selects request j) :
    ∃ g ∈ old.groups request, Text.sameName g.base j.baseName = true :=
  RerunGroup.exists_mem_ofInstances (List.mem_filter.mpr ⟨hj, (selects_iff hj).mpr hs⟩)

theorem first_mem_of_mem_groups {g : RerunGroup} (hg : g ∈ old.groups request) :
    g.first ∈ old.jobs.members :=
  (List.mem_filter.mp (RerunGroup.first_mem hg)).1

theorem selects_first {g : RerunGroup} (hg : g ∈ old.groups request) :
    old.Selects request g.first :=
  (selects_iff (first_mem_of_mem_groups hg)).mp
    (List.mem_filter.mp (RerunGroup.first_mem hg)).2

/-- The names of a group differ if those of the stage do. -/
theorem namesDiffer_of_mem_groups {g : RerunGroup} (hg : g ∈ old.groups request)
    (hdiffer : NamesDiffer old.jobs.members) : NamesDiffer g.members := by
  rw [RerunGroup.members_eq_filter hg]
  exact (hdiffer.filter _).filter _

end Stage

/-- A replacement covers as many of the selected instances as its group has. -/
theorem RerunGroup.ReplacedBy.countP_covers {g : RerunGroup} {r : Replacement}
    (h : g.ReplacedBy old config s now r) (hg : g ∈ old.groups request) :
    (old.selected request).countP r.covers = g.members.length := by
  rw [RerunGroup.members_eq_filter hg, ← List.countP_eq_length_filter]
  exact List.countP_congr fun j _ => by
    rw [Replacement.covers, h.base_eq]
    rfl

namespace ReplacedGroups

theorem exists_replacement (h : ReplacedGroups old request config s now rs) {g : RerunGroup}
    (hg : g ∈ old.groups request) : ∃ r ∈ rs, g.ReplacedBy old config s now r :=
  Lists.exists_right h hg

theorem exists_group (h : ReplacedGroups old request config s now rs) {r : Replacement}
    (hr : r ∈ rs) : ∃ g ∈ old.groups request, g.ReplacedBy old config s now r :=
  Lists.exists_left h hr

/-- The replacements are for different jobs. -/
theorem pairwise_base (h : ReplacedGroups old request config s now rs) :
    rs.Pairwise fun r t => Text.sameName r.base t.base = false := by
  refine Lists.pairwise_of_forall₂ h (fun a b c d hg hh hd => ?_)
    (RerunGroup.pairwise_ofInstances _)
  rw [hg.base_eq, hh.base_eq]
  exact hd

/-- All instances of the replacements find a place, next to the copies. -/
theorem merged_perm (h : ReplacedGroups old request config s now rs) :
    (old.merged request config rs).Perm
      (old.copies request config ++ rs.flatMap fun r => r.jobs) := by
  have hp : (old.merged request config rs).Perm (old.copies request config ++
      rs.flatMap fun r => r.pieces 0 ((old.selected request).countP r.covers)) :=
    mergeReplacements_perm h.pairwise_base old.jobs.members []
  have hplaces : (rs.flatMap fun r => r.pieces 0 ((old.selected request).countP r.covers)) =
      rs.flatMap fun r => r.jobs := by
    refine List.flatMap_congr fun r hr => ?_
    obtain ⟨g, hg, hr⟩ := h.exists_group hr
    rw [hr.countP_covers hg, hr.pieces_eq_jobs]
  rwa [hplaces] at hp

/-- A relation holds between any two instances of the new stage if it holds
between copies, between new instances of one group, between those of different
groups, and between copies and new instances. -/
theorem pairwise_merged {R : JobInstance → JobInstance → Prop} (hsymm : ∀ {a b}, R a b → R b a)
    (h : ReplacedGroups old request config s now rs)
    (hcopies : (old.copies request config).Pairwise R)
    (hgroup : ∀ g ∈ old.groups request, ∀ r ∈ rs, g.ReplacedBy old config s now r →
      r.jobs.Pairwise R)
    (hgroups : ∀ g ∈ old.groups request, ∀ g' ∈ old.groups request,
      g.first.isSibling g'.first = false → ∀ r ∈ rs, ∀ t ∈ rs, g.ReplacedBy old config s now r →
        g'.ReplacedBy old config s now t → ∀ a ∈ r.jobs, ∀ b ∈ t.jobs, R a b)
    (hcross : ∀ k ∈ old.jobs.members, old.selects request k = false →
      ∀ g ∈ old.groups request, ∀ r ∈ rs, g.ReplacedBy old config s now r →
        ∀ j ∈ r.jobs, R (config.keep k) j) :
    (old.merged request config rs).Pairwise R := by
  rw [h.merged_perm.pairwise_iff hsymm, List.pairwise_append, List.pairwise_flatMap]
  refine ⟨hcopies, ⟨fun r hr => ?_, ?_⟩, fun c hc j hj => ?_⟩
  · obtain ⟨g, hg, hgr⟩ := h.exists_group hr
    exact hgroup g hg r hr hgr
  · refine Lists.pairwise_of_forall₂ (Lists.forall₂_mem h)
      (fun g g' r t ⟨hg, hr, hgr⟩ ⟨hg', ht, hgt⟩ hd => ?_) (RerunGroup.pairwise_ofInstances _)
    exact hgroups g hg g' hg' hd r hr t ht hgr hgt
  · obtain ⟨k, hk, rfl⟩ := List.mem_map.mp hc
    obtain ⟨hk, hs⟩ := List.mem_filter.mp hk
    obtain ⟨r, hr, hj⟩ := List.mem_flatMap.mp hj
    obtain ⟨g, hg, hgr⟩ := h.exists_group hr
    exact hcross k hk (by simpa using hs) g hg r hr hgr j hj

/-- Every new instance finds a place. -/
theorem mem_merged (h : ReplacedGroups old request config s now rs) {r : Replacement}
    (hr : r ∈ rs) {j : JobInstance} (hj : j ∈ r.jobs) : j ∈ old.merged request config rs :=
  h.merged_perm.mem_iff.mpr (List.mem_append_right _ (List.mem_flatMap.mpr ⟨r, hr, hj⟩))

/-- Every copy finds a place. -/
theorem keep_mem_merged (h : ReplacedGroups old request config s now rs) {k : JobInstance}
    (hk : k ∈ old.jobs.members) (hs : old.selects request k = false) :
    config.keep k ∈ old.merged request config rs :=
  h.merged_perm.mem_iff.mpr (List.mem_append_left _
    (List.mem_map_of_mem (List.mem_filter.mpr ⟨hk, by rw [hs]; rfl⟩)))

/-- The new instances are those that are no copies. -/
theorem isCopy_eq_false (h : ReplacedGroups old request config s now rs) {r : Replacement}
    (hr : r ∈ rs) {j : JobInstance} (hj : j ∈ r.jobs) : j.isCopy = false := by
  obtain ⟨g, _, hg⟩ := h.exists_group hr
  rw [JobInstance.isCopy, JobInstance.source?, (hg.scheduledAt hj).origin]
  rfl

end ReplacedGroups

namespace Scheduling

theorem replacements_eq_ok : s.replacements old request config now = .ok rs ↔
    ReplacedGroups old request config s now rs := by
  unfold replacements
  rw [Outcome.mapM_eq_ok]
  have hmark : (s.forRerun config).markRerun = JobInstance.markAsRerun := rfl
  simp only [RerunGroup.replacement_eq_ok, hmark]
  exact Iff.rfl

/-- The stage that follows the old one, with the instances it is to have. -/
def successor (s : Scheduling) (old : Stage) (configVersion : String) (now : Instant)
    (jobs : List JobInstance) : Stage where
  name := old.name
  jobs := ⟨jobs⟩
  approvalType := old.approvalType
  approvedBy := s.approvedBy
  counter := old.counter + 1
  rerunOfCounter := some (old.rerunOfCounter.getD old.counter)
  configVersion
  fetchMaterials := old.fetchMaterials
  cleanWorkingDir := old.cleanWorkingDir
  createdTime := now

/-- A rerun succeeds exactly if the old stage has ended, the request is
accepted, all groups are replaced and the names of the instances differ. -/
theorem rerun_eq_ok {configVersion : String} {new : Stage} :
    s.rerun old request config configVersion now = .ok new ↔
      old.isCompleted = true ∧ old.Accepts request ∧
        ∃ rs, ReplacedGroups old request config s now rs ∧
          NamesDiffer (old.merged request config rs) ∧
            new = s.successor old configVersion now (old.merged request config rs) := by
  unfold rerun
  by_cases hc : old.isCompleted = true
  · simp only [hc, Bool.not_true, Bool.false_eq_true, ↓reduceIte, true_and]
    constructor
    · intro h
      obtain ⟨_, ha, h⟩ := Outcome.bind_eq_ok.mp h
      obtain ⟨rs, hrs, h⟩ := Outcome.bind_eq_ok.mp h
      obtain ⟨jobs, hjobs, h⟩ := Outcome.bind_eq_ok.mp h
      obtain ⟨hd, rfl⟩ := Jobs.ofList_eq_ok.mp hjobs
      cases h
      exact ⟨Stage.checkRequest_eq_ok.mp ha, rs, replacements_eq_ok.mp hrs, hd, rfl⟩
    · rintro ⟨ha, rs, hrs, hd, rfl⟩
      refine Outcome.bind_eq_ok.mpr ⟨(), Stage.checkRequest_eq_ok.mpr ha, ?_⟩
      refine Outcome.bind_eq_ok.mpr ⟨rs, replacements_eq_ok.mpr hrs, ?_⟩
      exact Outcome.bind_eq_ok.mpr ⟨⟨_⟩, Jobs.ofList_eq_ok.mpr ⟨hd, rfl⟩, rfl⟩
  · rw [if_pos (by simpa using hc)]
    exact ⟨nofun, fun h => absurd h.1 hc⟩

end Scheduling
end StageRuns
