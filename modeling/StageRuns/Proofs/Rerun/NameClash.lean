/-
# When new instances clash by name

In a rerun of an orderly stage, two instances of the new stage have the same name
in just one case (`ReplacedGroups.namesDiffer_merged_iff`): a job that ran on all
agents runs once now, its selected instance is to have the name of the job, and
an instance that has this name already stays, since an earlier rerun made it
(`Stage.Clashes`). A new instance has otherwise the name of a selected one, or
an index beyond all those of instances for agents
(`Stage.Orderly.name_of_renewal`).

Under plain names all stages of a chain are orderly, whatever configurations the
rounds are made under, so a name is there twice only by such a clash
(`Scheduling.rerun_eq_duplicateJob_iff`).

Key definitions: `Stage.Clashes`, `PlainRound`, `Failure.IsRefusal`.
Key theorems: `Stage.Orderly.name_of_renewal`,
`ReplacedGroups.namesDiffer_merged_iff`, `Stage.Reached.orderly`,
`Scheduling.rerun_eq_duplicateJob_iff`.
-/
import StageRuns.Proofs.Orderly
import StageRuns.Proofs.Rerun.Refusal

namespace StageRuns

/-- Of the instances of a job that runs once now, one that ran on all agents is
selected, and one that ran once stays. -/
def Stage.Clashes (old : Stage) (request : List String) (config : StageConfig) : Prop :=
  ∃ j ∈ old.jobs.members, ∃ k ∈ old.jobs.members,
    old.Selects request j ∧ ¬ old.Selects request k ∧ j.isSibling k = true ∧
      j.runType = .runOnAllAgents ∧ k.runType = .single ∧
        ∃ job, config.job? j.baseName = some job ∧ job.runType = .single

variable {old : Stage} {request : List String} {config : StageConfig} {s : Scheduling}
  {now : Instant} {g : RerunGroup} {job : JobConfig} {fresh : List JobInstance}
  {rs : List Replacement} {j k : JobInstance}

/-- A new instance is named for the job of its group. -/
theorem RerunGroup.Renewal.exists_namedFor (h : g.Renewal old job s now fresh) (hj : j ∈ fresh) :
    ∃ i, j.NamedFor { job with name := g.base } i := by
  by_cases hr : job.runType = .single
  · exact ⟨none, .once hr ((h.runType_eq hj).trans hr) (h.name_eq hj hr)⟩
  · obtain ⟨k, hk, _⟩ := h.exists_index hj hr
    exact ⟨some k, .numbered hr (h.runType_eq hj) hk⟩

namespace Stage.Orderly

theorem isPlainName_base (hold : old.Orderly) (hg : g ∈ old.groups request) :
    IsPlainName g.base :=
  hold.isPlainName_baseName (first_mem_of_mem_groups hg)

/-! ### Names of new instances -/

/-- An instance of a number is made anew under its name. -/
theorem sameName_runInstance (hold : old.Orderly) (hg : g ∈ old.groups request)
    (hf : g.first.runType = .runMultipleInstance) (hj : j ∈ g.members) :
    Text.sameName j.name (instanceName g.base .runMultipleInstance (j.index?.getD 1)) = true := by
  obtain ⟨⟨hin, _⟩, hs⟩ := (mem_members_of_mem_groups hg).mp hj
  have hr := hold.unmixed g.first (first_mem_of_mem_groups hg) j hin hs hf
  obtain ⟨k, hk, hn⟩ := hold.exists_index hin (by rw [hr]; exact nofun)
  rw [JobInstance.isSibling_comm] at hs
  rw [hn, hk, hr]
  exact sameName_instanceName_congr hs _ _

/-- A new instance has the name of a selected one, or an index beyond those of all
instances for agents, or it is the only one of a job that ran on all agents. -/
theorem name_of_renewal (hold : old.Orderly) (hg : g ∈ old.groups request)
    (hf : g.Renewal old job s now fresh) (hj : j ∈ fresh) :
    (∃ m ∈ g.members, Text.sameName m.name j.name = true) ∨
      (∃ i, g.highestIndex old < i ∧ j.NamedFor { name := g.base, runOnAllAgents := true } i) ∨
        g.first.runType = .runOnAllAgents ∧ job.runType = .single ∧
          j.NamedFor { name := g.base } none := by
  cases hf with
  | once ht =>
    refine .inl ⟨g.first, List.mem_cons_self, ?_⟩
    rw [List.mem_singleton.mp hj, ← JobInstance.baseName_of_single ht]
    exact Text.sameName_self _
  | onSameAgent ht hr =>
    rw [List.mem_singleton.mp hj]
    exact .inr (.inr ⟨ht, hr, .once rfl rfl rfl⟩)
  | onFreeAgents =>
    obtain ⟨i, hi, _, _, rfl⟩ := mem_agentRow hj
    exact .inr (.inl ⟨i, hi, .numbered nofun rfl rfl⟩)
  | atIndices ht =>
    obtain ⟨m, hm, rfl⟩ := List.mem_map.mp hj
    exact .inl ⟨m, hm, hold.sameName_runInstance hg ht hm⟩

/-- The new instances of a group have different names. -/
theorem namesDiffer_of_renewal (hold : old.Orderly) (hg : g ∈ old.groups request)
    (hf : g.Renewal old job s now fresh) : NamesDiffer fresh := by
  cases hf with
  | once | onSameAgent => exact List.pairwise_singleton ..
  | onFreeAgents => exact namesDiffer_agentRow ..
  | atIndices ht =>
    have hmembers : NamesDiffer g.members := namesDiffer_of_mem_groups hg hold.names
    rw [NamesDiffer, List.pairwise_map]
    refine hmembers.imp_of_mem fun {a b} ha hb hd => Bool.eq_false_iff.mpr fun hs => ?_
    have hbs := hold.sameName_runInstance hg ht hb
    rw [Text.sameName_comm] at hbs
    have has := Text.sameName_trans (hold.sameName_runInstance hg ht ha) hs
    have hab := Text.sameName_trans has hbs
    rw [hd] at hab
    cases hab

/-- New instances of different jobs have different names. -/
theorem nameDiffers_of_groups (hold : old.Orderly) {h : RerunGroup} {x y : JobConfig}
    {xs ys : List JobInstance} (hg : g ∈ old.groups request) (hh : h ∈ old.groups request)
    (hd : g.first.isSibling h.first = false) (hxs : g.Renewal old x s now xs)
    (hys : h.Renewal old y s now ys) (hj : j ∈ xs) (hk : k ∈ ys) : j.NameDiffers k := by
  refine Bool.eq_false_iff.mpr fun hn => ?_
  obtain ⟨_, hx⟩ := hxs.exists_namedFor hj
  obtain ⟨_, hy⟩ := hys.exists_namedFor hk
  have hgbase := (hold.isPlainName_base hg).not_endsInIndex
  have hhbase := (hold.isPlainName_base hh).not_endsInIndex
  have hs := (hx.eq_of_sameName hy (fun _ => hgbase) (fun _ => hhbase) hn).1
  exact Bool.eq_false_iff.mp hd hs

/-- A new instance does not take the name of one that stays, unless they clash. -/
theorem nameDiffers_of_not_selected (hold : old.Orderly) (hno : ¬ old.Clashes request config)
    (hg : g ∈ old.groups request) (hc : config.job? g.base = some job)
    (hf : g.Renewal old job s now fresh) (hj : j ∈ fresh) (hk : k ∈ old.jobs.members)
    (hs : old.selects request k = false) : k.NameDiffers j := by
  refine Bool.eq_false_iff.mpr fun hn => ?_
  obtain ⟨x, hplain, hkb, hx⟩ := hold.exists_job hk
  have hname := hplain.not_endsInIndex
  have hbase := (hold.isPlainName_base hg).not_endsInIndex
  rcases hold.name_of_renewal hg hf hj with ⟨m, hm, hmj⟩ | ⟨i, hi, hji⟩ | ⟨ht, hr, hji⟩
  · obtain ⟨⟨hin, hsel⟩, _⟩ := (mem_members_of_mem_groups hg).mp hm
    rw [Text.sameName_comm] at hmj
    rw [← hold.names.eq_of_sameName hk hin (Text.sameName_trans hn hmj), hs] at hsel
    cases hsel
  · -- the instance that stays would have an index beyond the highest one
    obtain ⟨hsame, hr, hindex⟩ := hx.eq_of_sameName hji (fun _ => hname) (fun _ => hbase) hn
    have hsib : k ∈ g.agentSiblings old := RerunGroup.mem_agentSiblings.mpr
      ⟨hk, hr.trans hji.runType_eq, by rw [hkb]; exact hsame⟩
    have := RerunGroup.le_highestIndex hsib hindex
    omega
  · obtain ⟨hsame, hkr, -⟩ := hx.eq_of_sameName hji (fun _ => hname) (fun _ => hbase) hn
    have hsib : g.first.isSibling k = true := by
      rw [JobInstance.isSibling_comm, JobInstance.isSibling, hkb]
      exact hsame
    exact hno ⟨g.first, first_mem_of_mem_groups hg, k, hk, selects_first hg,
      (selects_eq_false_iff hk).mp hs, hsib, ht, hkr.trans hji.runType_eq, job, hc, hr⟩

end Stage.Orderly

/-! ### The new stage -/

namespace ReplacedGroups

/-- If instances clash, a name is there twice. -/
theorem not_clashes (h : ReplacedGroups old request config s now rs)
    (hnames : NamesDiffer (old.merged request config rs)) : ¬ old.Clashes request config := by
  rintro ⟨j, hj, k, hk, hsj, hsk, hsib, -, hkr, job, hc, hr⟩
  obtain ⟨g, hg, hgj⟩ := Stage.exists_group_of_selects hj hsj
  obtain ⟨r, hrs, job', fresh, hc', hf, rfl⟩ := h.exists_replacement hg
  rw [config.job?_congr hgj, hc] at hc'
  cases hc'
  obtain ⟨c, hcf⟩ := List.exists_mem_of_ne_nil _ hf.ne_nil
  have hnew : c.markAsRerun ∈ old.merged request config rs :=
    h.mem_merged hrs (List.mem_map_of_mem hcf)
  have hkeep : config.keep k ∈ old.merged request config rs :=
    h.keep_mem_merged hk ((Stage.selects_eq_false_iff hk).mpr hsk)
  -- both have the name of the job
  have hsame : Text.sameName c.name (config.keep k).name = true := by
    rw [hf.name_eq hcf hr, (config.isCopyOf_keep k).name, ← JobInstance.baseName_of_single hkr]
    exact Text.sameName_trans hgj hsib
  have he : c.markAsRerun = config.keep k := hnames.eq_of_sameName hnew hkeep hsame
  have hcopy := config.isCopy_keep k
  rw [← he] at hcopy
  cases hcopy

/-- Two instances of the new stage have the same name exactly if instances of an
old job clash. -/
theorem namesDiffer_merged_iff (h : ReplacedGroups old request config s now rs)
    (hold : old.Orderly) :
    NamesDiffer (old.merged request config rs) ↔ ¬ old.Clashes request config := by
  refine ⟨h.not_clashes, fun hno => h.pairwise_merged JobInstance.NameDiffers.symm ?_ ?_ ?_ ?_⟩
  · rw [Stage.copies, List.pairwise_map]
    refine (List.Pairwise.filter _ hold.names).imp fun {a b} hd => ?_
    rw [JobInstance.NameDiffers, (config.isCopyOf_keep a).name, (config.isCopyOf_keep b).name]
    exact hd
  · rintro g hg r - ⟨job, fresh, -, hf, rfl⟩
    rw [List.pairwise_map]
    exact hold.namesDiffer_of_renewal hg hf
  · rintro g hg g' hg' hd r - t - ⟨x, xs, -, hxs, rfl⟩ ⟨y, ys, -, hys, rfl⟩ a ha b hb
    obtain ⟨c, hc, rfl⟩ := List.mem_map.mp ha
    obtain ⟨d, hd', rfl⟩ := List.mem_map.mp hb
    have hdiff := hold.nameDiffers_of_groups hg hg' hd hxs hys hc hd'
    exact hdiff
  · rintro k hk hs g hg r - ⟨job, fresh, hc, hf, rfl⟩ j hj
    obtain ⟨c, hcf, rfl⟩ := List.mem_map.mp hj
    rw [JobInstance.NameDiffers, (config.isCopyOf_keep k).name]
    have hdiff := hold.nameDiffers_of_not_selected hno hg hc hf hcf hk hs
    exact hdiff

/-- Each instance of the new stage comes from an old one of the same job; both ran
a number of times, or neither. -/
theorem exists_sibling (h : ReplacedGroups old request config s now rs) (hold : old.Orderly)
    (hj : j ∈ old.merged request config rs) (hfits : j.IndexFits) :
    ∃ k ∈ old.jobs.members, j.baseName = k.baseName ∧
      (k.runType = .runMultipleInstance ↔ j.runType = .runMultipleInstance) ∧
        ∃ job : JobConfig, job.name = k.baseName ∧ ∃ i, j.NamedFor job i := by
  rcases mem_mergeReplacements hj with ⟨k, hk, _, rfl⟩ | ⟨r, hr, hj⟩
  · have hcopy := config.isCopyOf_keep k
    obtain ⟨job, _, hb, hi⟩ := hold.exists_job hk
    exact ⟨k, hk, hcopy.baseName, by rw [hcopy.runType], job, hb.symm, _,
      hi.of_eq hcopy.name hcopy.runType⟩
  · obtain ⟨g, hg, job, fresh, _, hf, rfl⟩ := h.exists_group hr
    obtain ⟨c, hc, rfl⟩ := List.mem_map.mp hj
    obtain ⟨i, hi⟩ := hf.exists_namedFor hc
    have hn : c.markAsRerun.NamedFor { job with name := g.base } i := hi.of_eq rfl rfl
    refine ⟨g.first, Stage.first_mem_of_mem_groups hg,
      (hn.parts (hold.isPlainName_base hg).1 hfits).1, ?_, _, rfl, i, hn⟩
    rw [hf.first_runType_iff, ← hf.runType_eq hc]
    rfl

end ReplacedGroups

/-! ### Rounds -/

/-- A round under plain names, in which every index has 32 bits. -/
def PlainRound (_ : Scheduling) (config : StageConfig) (new : Stage) : Prop :=
  config.IsPlain ∧ ∀ j ∈ new.jobs.members, j.IndexFits

/-- A rerun of an orderly stage is orderly. -/
theorem Scheduling.orderly_rerun {configVersion : String} {new : Stage} (hold : old.Orderly)
    (h : s.rerun old request config configVersion now = .ok new)
    (hfits : ∀ j ∈ new.jobs.members, j.IndexFits) : new.Orderly := by
  obtain ⟨-, -, rs, hrs, hnames, rfl⟩ := rerun_eq_ok.mp h
  refine ⟨hfits, fun j hj => ?_, hnames, fun a ha b hb hs hr => ?_⟩
  · obtain ⟨k, hk, -, -, job, hn, hi⟩ := hrs.exists_sibling hold hj (hfits j hj)
    exact ⟨job, by rw [hn]; exact hold.isPlainName_baseName hk, hi⟩
  · obtain ⟨c, hc, hca, hcr, -⟩ := hrs.exists_sibling hold ha (hfits a ha)
    obtain ⟨d, hd, hdb, hdr, -⟩ := hrs.exists_sibling hold hb (hfits b hb)
    rw [JobInstance.isSibling, hca, hdb] at hs
    exact hdr.mp (hold.unmixed c hc d hd hs (hcr.mpr hr))

/-- The stages of chains under plain names are orderly. -/
theorem Stage.Reached.orderly {stage : Stage} (h : stage.Reached PlainRound) : stage.Orderly :=
  h.invariant (fun _ _ ha hab => ha.of_sameRoles hab)
    (fun _ _ _ _ _ hi ⟨hp, hfits⟩ => Scheduling.orderly_instantiate hp hi hfits)
    fun _ _ _ _ _ _ _ hold hr ⟨_, hfits⟩ => Scheduling.orderly_rerun hold hr hfits

/-- The failure tells why instances cannot be run again. -/
def Failure.IsRefusal : Failure → Prop
  | invalidArgument _ | cannotRerunJob _ _ | noMatchingAgents _ _ => True
  | _ => False

theorem Stage.RefusesJob.isRefusal {first : JobInstance} {failure : Failure}
    (h : old.RefusesJob request config s first failure) : failure.IsRefusal := by
  cases h <;> trivial

theorem Stage.isRefusal_of_checkRequest {failure : Failure}
    (h : old.checkRequest request = .error failure) : failure.IsRefusal := by
  obtain ⟨_, rfl⟩ | ⟨_, _, _, _, _, _, rfl⟩ := checkRequest_eq_error.mp h <;> trivial

theorem Scheduling.isRefusal_of_replacements {failure : Failure}
    (h : s.replacements old request config now = .error failure) : failure.IsRefusal := by
  obtain ⟨_, _, _, _, _, _, hf⟩ := replacements_eq_error.mp h
  exact hf.isRefusal

/-- Along a chain under plain names, a rerun fails because it is refused or because
a name is there twice. The latter happens exactly if no selected job is refused
and instances of one of them clash. -/
theorem Scheduling.rerun_eq_duplicateJob_iff {configVersion : String}
    (hold : old.Reached PlainRound) :
    (∀ failure, s.rerun old request config configVersion now = .error failure →
      failure.IsRefusal ∨ ∃ name, failure = .duplicateJob name) ∧
    ((∃ name, s.rerun old request config configVersion now = .error (.duplicateJob name)) ↔
      old.isCompleted = true ∧ old.Accepts request ∧
        (∀ first, old.Leads request first → ∀ f, ¬ old.RefusesJob request config s first f) ∧
          old.Clashes request config) := by
  constructor
  · intro failure h
    rcases rerun_eq_error.mp h with ⟨-, rfl⟩ | ⟨-, h | ⟨-, h | ⟨rs, -, h⟩⟩⟩
    · exact .inl trivial
    · exact .inl (Stage.isRefusal_of_checkRequest h)
    · exact .inl (isRefusal_of_replacements h)
    · obtain ⟨j, -, rfl⟩ := Jobs.ofList_eq_error.mp h
      exact .inr ⟨j.name, rfl⟩
  · constructor
    · rintro ⟨name, h⟩
      rcases rerun_eq_error.mp h with ⟨-, h⟩ | ⟨hc, h | ⟨ha, h | ⟨rs, hrs, h⟩⟩⟩
      · cases h
      · cases Stage.isRefusal_of_checkRequest h
      · cases isRefusal_of_replacements h
      · refine ⟨hc, ha, fun _ hl f => hrs.not_refusesJob hl f, ?_⟩
        by_contra hno
        have hnames := (hrs.namesDiffer_merged_iff hold.orderly).mpr hno
        rw [Jobs.ofList_eq_ok.mpr ⟨hnames, rfl⟩] at h
        cases h
    · rintro ⟨hc, ha, hno, hclash⟩
      obtain ⟨rs, hrs⟩ : ∃ rs, s.replacements old request config now = .ok rs :=
        Outcome.exists_of_ne_error fun f hf => by
          obtain ⟨_, first, _, _, _, hl, hf⟩ := replacements_eq_error.mp hf
          exact hno first hl f hf
      have hrs := replacements_eq_ok.mp hrs
      obtain ⟨failure, hfail⟩ : ∃ failure,
          Jobs.ofList (old.merged request config rs) = .error failure := by
        cases h : Jobs.ofList (old.merged request config rs) with
        | error failure => exact ⟨failure, rfl⟩
        | ok jobs => exact absurd hclash (hrs.not_clashes (Jobs.ofList_eq_ok.mp h).1)
      obtain ⟨j, -, rfl⟩ := Jobs.ofList_eq_error.mp hfail
      exact ⟨j.name, rerun_eq_error.mpr (.inr ⟨hc, .inr ⟨ha, .inr ⟨rs, hrs, hfail⟩⟩⟩)⟩

/-! ### Two instances that clash -/

theorem mixedRun_reached_plain : mixedRun.Reached PlainRound := by
  have hfirst : agentsAndOnce.IsPlain := ⟨by decide +kernel, by decide +kernel⟩
  have hagain : bothOnce.IsPlain := ⟨by decide +kernel, by decide +kernel⟩
  have hshort : ∀ j ∈ firstAgentAgain.jobs.members, j.name.length ≤ 19 := by decide +kernel
  exact mixedRun_reached_of ⟨hfirst, indexFits_onTwoAgents⟩
    ⟨hagain, fun j hj => JobInstance.indexFits_of_length_le (hshort j hj)⟩

/-- When the instance that ran on the first agent was run again, once, there is no
name left for the one that ran on the second agent. -/
theorem Scheduling.rerun_duplicateJob_mixedRun : mixedRun.Reached PlainRound ∧
    bothOnce.IsPlain ∧ twoAgents.rerun mixedRun ["a-runOnAll-2"] bothOnce "3" ⟨4, 0⟩ =
      .error (.duplicateJob "a") :=
  ⟨mixedRun_reached_plain, ⟨by decide +kernel, by decide +kernel⟩, by decide +kernel⟩

/-- The two instances clash. -/
theorem Scheduling.clashes_mixedRun : mixedRun.Clashes ["a-runOnAll-2"] bothOnce := by
  have hfail : twoAgents.rerun mixedRun ["a-runOnAll-2"] bothOnce "3" ⟨4, 0⟩ =
      .error (.duplicateJob "a") := by
    decide +kernel
  obtain ⟨-, -, -, hclash⟩ :=
    (rerun_eq_duplicateJob_iff mixedRun_reached_plain).2.mp ⟨"a", hfail⟩
  exact hclash

end StageRuns
