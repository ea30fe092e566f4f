/-
# Orderly stages

A stage is orderly if each instance is named for a job with a plain name, no two
have the same name, and the instances of a job that ran a number of times do not
stand beside others of the same job. Stages are orderly when they are
instantiated under plain names (`Scheduling.orderly_instantiate`), and they stay
so whatever their jobs do (`Stage.Orderly.of_sameRoles`).

Unlike a settled stage, an orderly one need not fit the configuration that is in
force: instances of a job that ran on all agents may stand beside one that ran
once.

Key definitions: `Stage.Orderly`.
Key theorems: `Stage.Orderly.exists_job`, `Stage.Orderly.of_sameRoles`,
`Scheduling.orderly_instantiate`.
-/
import StageRuns.Proofs.Chain
import StageRuns.Proofs.NamedJobs
import StageRuns.Proofs.Rerun.Selection

namespace StageRuns

/-- Every instance has a name of its own, made of the plain name of a job, and a
job that ran a number of times did nothing else. -/
structure Stage.Orderly (stage : Stage) : Prop where
  fits : ∀ j ∈ stage.jobs.members, j.IndexFits
  named : ∀ j ∈ stage.jobs.members, ∃ job : JobConfig, IsPlainName job.name ∧ ∃ i, j.NamedFor job i
  names : NamesDiffer stage.jobs.members
  unmixed : ∀ a ∈ stage.jobs.members, ∀ b ∈ stage.jobs.members, a.isSibling b = true →
    a.runType = .runMultipleInstance → b.runType = .runMultipleInstance

namespace Stage.Orderly

variable {stage : Stage} {j : JobInstance}

/-- An instance knows the job that it is named for, and its index. -/
theorem exists_job (h : stage.Orderly) (hj : j ∈ stage.jobs.members) :
    ∃ job : JobConfig, IsPlainName job.name ∧ j.baseName = job.name ∧ j.NamedFor job j.index? := by
  obtain ⟨job, hplain, i, hi⟩ := h.named j hj
  obtain ⟨hb, hx⟩ := hi.parts hplain.1 (h.fits j hj)
  exact ⟨job, hplain, hb, by rw [hx]; exact hi⟩

theorem isPlainName_baseName (h : stage.Orderly) (hj : j ∈ stage.jobs.members) :
    IsPlainName j.baseName := by
  obtain ⟨job, hplain, hb, _⟩ := h.exists_job hj
  rw [hb]
  exact hplain

theorem exists_index (h : stage.Orderly) (hj : j ∈ stage.jobs.members)
    (hr : j.runType ≠ .single) :
    ∃ k, j.index? = some k ∧ j.name = instanceName j.baseName j.runType k := by
  obtain ⟨job, _, hb, hi⟩ := h.exists_job hj
  rw [hi.runType_eq] at hr
  obtain ⟨k, hk, hn⟩ := hi.exists_index hr
  exact ⟨k, hk, by rw [hn, hb, hi.runType_eq]⟩

/-- Whether a stage is orderly depends on the roles of its instances only. -/
theorem of_sameRoles {a b : Stage} (h : a.Orderly) (hab : a.SameRoles b) : b.Orderly where
  fits j hj := by
    obtain ⟨k, hk, hkj⟩ := Lists.exists_left hab hj
    exact hkj.indexFits (h.fits k hk)
  named j hj := by
    obtain ⟨k, hk, hkj⟩ := Lists.exists_left hab hj
    obtain ⟨job, hplain, i, hi⟩ := h.named k hk
    exact ⟨job, hplain, i, hi.of_eq hkj.name hkj.runType⟩
  names := Lists.pairwise_of_forall₂ hab (fun _ _ _ _ => JobInstance.SameRole.nameDiffers) h.names
  unmixed j hj l hl hs hr := by
    obtain ⟨k, hk, hkj⟩ := Lists.exists_left hab hj
    obtain ⟨m, hm, hml⟩ := Lists.exists_left hab hl
    rw [JobInstance.isSibling, hkj.baseName, hml.baseName] at hs
    rw [hml.runType]
    exact h.unmixed k hk m hm hs (hkj.runType.symm.trans hr)

end Stage.Orderly

/-- A stage is orderly if its instances are those of one plain configuration. -/
theorem Stage.orderly_of_namedFor {stage : Stage} {config : StageConfig} (hp : config.IsPlain)
    (hfits : ∀ j ∈ stage.jobs.members, j.IndexFits)
    (hnamed : ∀ j ∈ stage.jobs.members, ∃ job ∈ config.jobs, ∃ i, j.NamedFor job i)
    (hnames : NamesDiffer stage.jobs.members) : stage.Orderly := by
  refine ⟨hfits, fun j hj => ?_, hnames, fun a ha b hb hs hr => ?_⟩
  · obtain ⟨job, hjob, hi⟩ := hnamed j hj
    exact ⟨job, hp.plain job hjob, hi⟩
  · -- siblings are instances of one configured job
    obtain ⟨x, hx, i, hi⟩ := hnamed a ha
    obtain ⟨y, hy, k, hk⟩ := hnamed b hb
    rw [JobInstance.isSibling, (hi.parts (hp.plain x hx).1 (hfits a ha)).1,
      (hk.parts (hp.plain y hy).1 (hfits b hb)).1] at hs
    rw [hk.runType_eq, ← StageConfig.eq_of_sameName hp.differ hx hy hs, ← hi.runType_eq, hr]

/-- A stage is orderly when it is instantiated. -/
theorem Scheduling.orderly_instantiate {s : Scheduling} {config : StageConfig}
    {configVersion : String} {now : Instant} {stage : Stage} (hp : config.IsPlain)
    (h : s.instantiate config configVersion now = .ok stage)
    (hfits : ∀ j ∈ stage.jobs.members, j.IndexFits) : stage.Orderly := by
  obtain ⟨-, hnames, rfl⟩ := instantiate_eq_ok.mp h
  refine Stage.orderly_of_namedFor hp hfits (fun j hj => ?_) hnames
  obtain ⟨job, hjob, hj⟩ := List.mem_flatMap.mp hj
  obtain ⟨i, hi⟩ := exists_fills hj
  exact ⟨job, hjob, i, hi.named⟩

end StageRuns
