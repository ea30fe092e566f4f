/-
# Names that are never given again

The instances of a job for all agents are numbered on from the highest index of the
old stage. Only that stage is looked at, and still no name is given again along a
whole succession of reruns (`Stage.Succession.outnumbers`): the highest index never
goes down. If an instance is selected, there is a new one with a higher index; if none
is, they are all copied with their names. So a new instance has an index beyond those
of all earlier stages, and names with different indices differ.

What is asked of the configurations is that the job runs on all agents when one of its
instances for agents is selected. As long as none is, its configuration may change.

Key definitions: `JobInstance.SameNaming`, `Stage.Indexed`, `Stage.StaysOnAgents`,
`Stage.Succession`, `Stage.Outnumbers`, `Stage.NeverReuses`.
Key theorems: `Stage.Indexed.nameDiffers`, `RerunGroup.ReplacedBy.exists_beyond`,
`Scheduling.topIndex_le_rerun`, `Scheduling.exists_index_rerun`,
`Stage.NeverReuses.rerun`, `Stage.Succession.outnumbers`.
-/
import StageRuns.Proofs.Rerun.NameClash
import StageRuns.Proofs.Rerun.OnAgents

namespace StageRuns

/-! ### Names with and without an index -/

/-- The name of a job is not that of one of its numbered instances. -/
theorem not_sameName_instanceName (base : String) (runType : RunType) (k : Nat) :
    Text.sameName (instanceName base runType k) base = false := by
  refine Bool.eq_false_iff.mpr fun hs => ?_
  rw [Text.sameName_iff] at hs
  have hlength := congrArg (fun name : String => name.toList.length) hs
  simp only [asciiLower_instanceName, List.length_append] at hlength
  have hdigits : (Text.digitsOfNat k).length ≠ 0 := fun h =>
    Text.digitsOfNat_ne_nil k (List.length_eq_zero_iff.mp h)
  omega

/-! ### What does not change while a stage runs -/

/-- Both instances have the same name, run type and origin. -/
structure JobInstance.SameNaming (a b : JobInstance) : Prop where
  name : b.name = a.name
  runType : b.runType = a.runType
  origin : b.origin = a.origin

namespace JobInstance

variable {a b : JobInstance}

/-- Only the agent may be another one. -/
theorem SameNaming.sameRole (h : a.SameNaming b) : a.SameRole { b with agent := a.agent } :=
  ⟨h.name, h.runType, rfl⟩

theorem GoesOn.sameNaming (h : a.GoesOn b) : a.SameNaming b := by
  cases h with
  | rests => exact ⟨rfl, rfl, rfl⟩
  | moves h =>
    obtain ⟨-, rfl⟩ := moveTo_eq_ok.mp (changeState_eq_ok.mp h).2
    exact ⟨rfl, rfl, rfl⟩
  | assigned h =>
    obtain ⟨moved, hm, rfl⟩ := Outcome.map_eq_ok.mp h
    obtain ⟨-, rfl⟩ := moveTo_eq_ok.mp (changeState_eq_ok.mp hm).2
    exact ⟨rfl, rfl, rfl⟩
  | completes h =>
    obtain ⟨-, rfl⟩ := complete_eq_ok.mp h
    exact ⟨rfl, rfl, rfl⟩

theorem SavedAs.sameNaming (h : a.SavedAs b) : a.SameNaming b :=
  ⟨h.outcome.name, h.outcome.runType, h.origin⟩

end JobInstance

/-- The instances of both stages are named alike, in the same order. -/
def Stage.SameNamings (a b : Stage) : Prop :=
  List.Forall₂ JobInstance.SameNaming a.jobs.members b.jobs.members

theorem Stage.GoesOn.sameNamings {stage later : Stage} (h : stage.GoesOn later) :
    stage.SameNamings later := by
  obtain ⟨jobs, hj, rfl⟩ := h
  exact hj.imp fun _ _ h => h.sameNaming

theorem Stage.sameNamings_save (stage : Stage) (next : Int) :
    stage.SameNamings (stage.save next).1 :=
  (stage.forall₂_save next).imp fun _ _ h => h.sameNaming

namespace Stage

variable {stage a b : Stage} {base : String} {j k : JobInstance} {i : Nat}

/-! ### The highest index -/

theorem le_topIndex (hj : j ∈ stage.onAgents base) (hi : j.index? = some i) :
    i ≤ stage.topIndex base :=
  List.le_max?_getD_of_mem (List.mem_filterMap.mpr ⟨j, hj, hi⟩)

/-- If all indices of one stage are there in another one, that has an index as high. -/
theorem topIndex_le (h : ∀ j ∈ a.onAgents base, ∃ k ∈ b.onAgents base, k.index? = j.index?) :
    a.topIndex base ≤ b.topIndex base := by
  rw [topIndex]
  cases hm : ((a.onAgents base).filterMap (·.index?)).max? with
  | none => exact Nat.zero_le _
  | some top =>
    obtain ⟨j, hj, hi⟩ := List.mem_filterMap.mp (List.max?_mem hm)
    obtain ⟨k, hk, hkj⟩ := h j hj
    exact le_topIndex hk (hkj.trans hi)

theorem SameNamings.topIndex_le (h : a.SameNamings b) (base : String) :
    a.topIndex base ≤ b.topIndex base := by
  refine Stage.topIndex_le fun j hj => ?_
  obtain ⟨hin, hr, hb⟩ := mem_onAgents.mp hj
  obtain ⟨k, hk, hjk⟩ := Lists.exists_right h hin
  have hbase : k.baseName = j.baseName := hjk.sameRole.baseName
  exact ⟨k, mem_onAgents.mpr ⟨hk, hjk.runType.trans hr, by rw [hbase]; exact hb⟩,
    hjk.sameRole.index?⟩

/-- An instance that was made anew was so before it went on. -/
theorem SameNamings.exists_madeAnew (h : a.SameNamings b) {runType : RunType}
    (hk : k ∈ b.madeAnew base runType) : ∃ j ∈ a.madeAnew base runType, k.name = j.name := by
  obtain ⟨hin, hp⟩ := List.mem_filter.mp hk
  obtain ⟨hrerun, hr, hb⟩ := of_decide_eq_true hp
  obtain ⟨j, hj, hjk⟩ := Lists.exists_left h hin
  have hbase : k.baseName = j.baseName := hjk.sameRole.baseName
  rw [JobInstance.isRerun, hjk.origin] at hrerun
  rw [hbase] at hb
  exact ⟨j, List.mem_filter.mpr ⟨hj, decide_eq_true ⟨hrerun, hjk.runType.symm.trans hr, hb⟩⟩,
    hjk.name⟩

/-! ### Stages with indices -/

/-- An instance for an agent has an index of 32 bits in its name. -/
def AgentIndicesFit (stage : Stage) : Prop :=
  ∀ j ∈ stage.jobs.members, j.runType = .runOnAllAgents → j.IndexFits

/-- All instances but those of jobs that run once are named by index. -/
structure Indexed (stage : Stage) : Prop where
  named : ∀ j ∈ stage.jobs.members, j.runType ≠ .single →
    ∃ base k, j.name = instanceName base j.runType k
  fits : stage.AgentIndicesFit

namespace Indexed

theorem of_sameNamings (h : a.Indexed) (hab : a.SameNamings b) : b.Indexed := by
  refine ⟨fun k hk hr => ?_, fun k hk hr => ?_⟩
  · obtain ⟨j, hj, hjk⟩ := Lists.exists_left hab hk
    rw [hjk.runType] at hr ⊢
    rw [hjk.name]
    exact h.named j hj hr
  · obtain ⟨j, hj, hjk⟩ := Lists.exists_left hab hk
    have hfit := h.fits j hj (hjk.runType.symm.trans hr)
    exact hjk.sameRole.indexFits hfit

/-- An instance for an agent has a name, and so has its job. -/
theorem baseName_ne_empty (h : stage.Indexed) (hj : j ∈ stage.jobs.members)
    (hr : j.runType = .runOnAllAgents) : j.baseName ≠ "" := by
  intro hb
  obtain ⟨base, k, hn⟩ := h.named j hj (by rw [hr]; exact nofun)
  rw [JobInstance.name_eq_empty hb] at hn
  exact instanceName_ne_empty base j.runType k hn.symm

/-- A name with an index beyond the highest one of a job is that of no instance of the
job. -/
theorem nameDiffers (h : stage.Indexed) {name : String} (hn : name ≠ "")
    (hb : Text.sameName base name = true) (hlt : stage.topIndex base < i)
    (hj : j.name = instanceName name .runOnAllAgents i) (hk : k ∈ stage.jobs.members)
    (hkb : Text.sameName base k.baseName = true) : j.NameDiffers k := by
  refine Bool.eq_false_iff.mpr fun hs => ?_
  rw [hj] at hs
  by_cases hr : k.runType = .single
  · -- the instance has the name of its job, which has no index
    rw [JobInstance.baseName_of_single hr, Text.sameName_comm] at hkb
    have hsame := Text.sameName_trans (Text.sameName_trans hs hkb) hb
    rw [not_sameName_instanceName] at hsame
    cases hsame
  · obtain ⟨other, m, hm⟩ := h.named k hk hr
    rw [hm] at hs
    have hne : RunType.runOnAllAgents ≠ .single := nofun
    obtain ⟨hall, rfl, hnames⟩ := sameName_instanceName hne hr hs
    have hother : other ≠ "" := fun he => hn (Text.eq_empty_of_sameName (he ▸ hnames))
    have hfit : i < InstanceName.indexLimit := h.fits k hk hall.symm other i hr hm
    obtain ⟨-, hindex⟩ := JobInstance.baseName_of_name hother hr hm hfit
    have hle := le_topIndex (mem_onAgents.mpr ⟨hk, hall.symm, hkb⟩) hindex
    omega

end Indexed
end Stage

/-! ### New instances -/

section Rerun

variable {old new : Stage} {request : List String} {config : StageConfig} {s : Scheduling}
  {configVersion : String} {now : Instant} {g : RerunGroup} {r : Replacement}
  {rs : List Replacement} {base : String} {j : JobInstance}

/-- A new instance for an agent has an index beyond all those of its job. -/
theorem RerunGroup.ReplacedBy.exists_beyond (h : g.ReplacedBy old config s now r)
    (hg : g ∈ old.groups request) (hold : old.Indexed) (hj : j ∈ r.jobs)
    (hr : j.runType = .runOnAllAgents) (hfit : j.IndexFits) : g.base ≠ "" ∧ j.baseName = g.base ∧
      ∃ i, g.highestIndex old < i ∧ j.name = instanceName g.base .runOnAllAgents i ∧
        j.index? = some i := by
  obtain ⟨job, fresh, -, hf, rfl⟩ := h
  obtain ⟨c, hc, rfl⟩ := List.mem_map.mp hj
  have hall : job.runType = .runOnAllAgents := (hf.runType_eq hc).symm.trans hr
  cases hf with
  | once _ hr' | onSameAgent _ hr' | atIndices _ hr' =>
    rw [hall] at hr'
    cases hr'
  | onFreeAgents hfirst =>
    obtain ⟨i, hi, agent, -, hrow⟩ := mem_agentRow hc
    have hbase : g.base ≠ "" := hold.baseName_ne_empty (Stage.first_mem_of_mem_groups hg) hfirst
    have hn : c.markAsRerun.name = instanceName g.base c.markAsRerun.runType i := by
      rw [hrow]
      rfl
    have hne : c.markAsRerun.runType ≠ .single := by
      rw [hr]
      exact nofun
    obtain ⟨hb, hindex⟩ := JobInstance.baseName_of_name hbase hne hn (hfit g.base i hne hn)
    rw [hr] at hn
    exact ⟨hbase, hb, i, hi, hn, hindex⟩

/-- When an instance of the job for an agent is selected, the job runs on all
agents. -/
def Stage.StaysOnAgents (old : Stage) (request : List String) (config : StageConfig)
    (base : String) : Prop :=
  ∀ j ∈ old.onAgents base, old.Selects request j →
    ∃ job, config.job? base = some job ∧ job.runType = .runOnAllAgents

namespace Scheduling

/-- The instances of a rerun are named by index if those of the old stage are. -/
theorem indexed_rerun (hold : old.Indexed)
    (h : s.rerun old request config configVersion now = .ok new) (hfits : new.AgentIndicesFit) :
    new.Indexed := by
  refine ⟨fun j hj hr => ?_, hfits⟩
  obtain ⟨-, -, rs, hrs, -, rfl⟩ := rerun_eq_ok.mp h
  rcases mem_mergeReplacements hj with ⟨k, hk, _, rfl⟩ | ⟨r, hr', hj⟩
  · have hcopy := config.isCopyOf_keep k
    rw [hcopy.runType] at hr ⊢
    rw [hcopy.name]
    exact hold.named k hk hr
  · obtain ⟨g, _, job, fresh, _, hf, rfl⟩ := hrs.exists_group hr'
    obtain ⟨c, hc, rfl⟩ := List.mem_map.mp hj
    have hrun : c.runType = job.runType := hf.runType_eq hc
    obtain ⟨k, hk, -⟩ := hf.exists_index hc (by rw [← hrun]; exact hr)
    rw [← hrun] at hk
    exact ⟨g.base, k, hk⟩

/-- A new instance of a job for an agent is numbered beyond the old stage. -/
theorem exists_index_rerun (hold : old.Indexed)
    (h : s.rerun old request config configVersion now = .ok new) (hfits : new.AgentIndicesFit)
    (hj : j ∈ new.madeAnew base .runOnAllAgents) : ∃ name i, name ≠ "" ∧
      Text.sameName base name = true ∧ old.topIndex base < i ∧
        j.name = instanceName name .runOnAllAgents i := by
  obtain ⟨hin, hp⟩ := List.mem_filter.mp hj
  obtain ⟨-, -, rs, hrs, -, rfl⟩ := rerun_eq_ok.mp h
  have hagain : j.RunsAgain base .runOnAllAgents := of_decide_eq_true hp
  rcases mem_mergeReplacements hin with ⟨k, _, _, rfl⟩ | ⟨r, hr, hjr⟩
  · exact absurd hagain (config.not_runsAgain_keep k base .runOnAllAgents)
  · obtain ⟨-, hall, hb⟩ := hagain
    obtain ⟨g, hg, hgr⟩ := hrs.exists_group hr
    obtain ⟨hne, hbase, i, hi, hn, -⟩ := hgr.exists_beyond hg hold hjr hall (hfits j hin hall)
    rw [hbase] at hb
    rw [RerunGroup.highestIndex_eq hb] at hi
    exact ⟨g.base, i, hne, hb, hi, hn⟩

/-- The highest index of a job does not go down. -/
theorem topIndex_le_rerun (hold : old.Indexed)
    (h : s.rerun old request config configVersion now = .ok new) (hfits : new.AgentIndicesFit)
    (hstays : old.StaysOnAgents request config base) :
    old.topIndex base ≤ new.topIndex base := by
  obtain ⟨-, -, rs, hrs, -, rfl⟩ := rerun_eq_ok.mp h
  by_cases hsel : ∃ j ∈ old.onAgents base, old.Selects request j
  · obtain ⟨j, hj, hs⟩ := hsel
    obtain ⟨job, hc, hall⟩ := hstays j hj hs
    obtain ⟨hin, -, hb⟩ := Stage.mem_onAgents.mp hj
    obtain ⟨g, hg, hgj⟩ := Stage.exists_group_of_selects hin hs
    rw [Text.sameName_comm] at hgj
    have hb : Text.sameName base g.base = true := Text.sameName_trans hb hgj
    obtain ⟨r, hr, hgr⟩ := hrs.exists_replacement hg
    -- there is a new instance, whose index is higher
    obtain ⟨c, hcr, hrun⟩ : ∃ c ∈ r.jobs, c.runType = .runOnAllAgents := by
      obtain ⟨job', fresh, hc', hf, rfl⟩ := hgr
      rw [← config.job?_congr hb, hc] at hc'
      cases hc'
      obtain ⟨c, hcf⟩ := List.exists_mem_of_ne_nil _ hf.ne_nil
      exact ⟨c.markAsRerun, List.mem_map_of_mem hcf, (hf.runType_eq hcf).trans hall⟩
    have hmem : c ∈ old.merged request config rs := hrs.mem_merged hr hcr
    obtain ⟨-, hbase, i, hi, -, hindex⟩ := hgr.exists_beyond hg hold hcr hrun (hfits c hmem hrun)
    rw [RerunGroup.highestIndex_eq hb] at hi
    have hon : c ∈ (s.successor old configVersion now (old.merged request config rs)).onAgents base :=
      Stage.mem_onAgents.mpr ⟨hmem, hrun, by rw [hbase]; exact hb⟩
    exact Nat.le_trans (Nat.le_of_lt hi) (Stage.le_topIndex hon hindex)
  · -- all instances of the job are copied
    refine Stage.topIndex_le fun j hj => ?_
    obtain ⟨hin, hr, hb⟩ := Stage.mem_onAgents.mp hj
    have hs : old.selects request j = false :=
      (Stage.selects_eq_false_iff hin).mpr fun hs => hsel ⟨j, hj, hs⟩
    have hcopy := config.isCopyOf_keep j
    have hmem : config.keep j ∈ old.merged request config rs := hrs.keep_mem_merged hin hs
    refine ⟨config.keep j, Stage.mem_onAgents.mpr
      ⟨hmem, hcopy.runType.trans hr, by rw [hcopy.baseName]; exact hb⟩, ?_⟩
    rw [JobInstance.index?, JobInstance.index?, hcopy.name, hcopy.runType]

end Scheduling
end Rerun

/-! ### Successions -/

namespace Stage

/-- The stages that were rerun one after the other, the last one first, and the present
stage. Whenever an instance of a job for an agent was selected, the job ran on all
agents. -/
inductive Succession (base : String) : List Stage → Stage → Prop
  /-- The first stage is instantiated. -/
  | start {s : Scheduling} {config : StageConfig} {configVersion : String} {now : Instant}
      {stage : Stage} : s.instantiate config configVersion now = .ok stage →
      stage.AgentIndicesFit → Succession base [] stage
  /-- Jobs of the present stage move. -/
  | goesOn {past : List Stage} {stage later : Stage} : Succession base past stage →
      stage.GoesOn later → Succession base past later
  /-- The present stage is saved. -/
  | saved {past : List Stage} {stage : Stage} {next : Int} : Succession base past stage →
      Succession base past (stage.save next).1
  /-- The present stage is rerun. -/
  | rerun {past : List Stage} {old new : Stage} {s : Scheduling} {config : StageConfig}
      {request : List String} {configVersion : String} {now : Instant} :
      Succession base past old → s.rerun old request config configVersion now = .ok new →
      old.StaysOnAgents request config base → new.AgentIndicesFit →
      Succession base (old :: past) new

/-- The highest index of a job is not lower in the later stage, and an instance that was
made for it has a name that no instance of the job has in the earlier stage. -/
structure Outnumbers (later earlier : Stage) (base : String) : Prop where
  top : earlier.topIndex base ≤ later.topIndex base
  fresh : ∀ j ∈ later.madeAnew base .runOnAllAgents, ∀ k ∈ earlier.jobs.members,
    Text.sameName base k.baseName = true → Text.sameName j.name k.name = false

variable {base : String} {past : List Stage} {stage a b earlier : Stage}

theorem Outnumbers.of_sameNamings (h : a.Outnumbers earlier base) (hab : a.SameNamings b) :
    b.Outnumbers earlier base := by
  refine ⟨Nat.le_trans h.top (hab.topIndex_le base), fun j hj k hk hb => ?_⟩
  obtain ⟨i, hi, hn⟩ := hab.exists_madeAnew hj
  rw [hn]
  exact h.fresh i hi k hk hb

theorem indexed_instantiate {s : Scheduling} {config : StageConfig} {configVersion : String}
    {now : Instant} (h : s.instantiate config configVersion now = .ok stage)
    (hfits : stage.AgentIndicesFit) : stage.Indexed := by
  refine ⟨fun j hj hr => ?_, hfits⟩
  obtain ⟨-, -, rfl⟩ := Scheduling.instantiate_eq_ok.mp h
  obtain ⟨job, -, hj⟩ := List.mem_flatMap.mp hj
  obtain ⟨i, hi⟩ := Scheduling.exists_fills hj
  have hrun := hi.named.runType_eq
  obtain ⟨k, -, hn⟩ := hi.named.exists_index (by rw [← hrun]; exact hr)
  rw [← hrun] at hn
  exact ⟨job.name, k, hn⟩

/-- What holds along a succession: all stages are indexed, and each outnumbers those
before it. -/
structure NeverReuses (base : String) (past : List Stage) (stage : Stage) : Prop where
  indexed : ∀ e ∈ stage :: past, e.Indexed
  outnumbers : (stage :: past).Pairwise fun later earlier => later.Outnumbers earlier base

namespace NeverReuses

theorem of_sameNamings (h : NeverReuses base past a) (hab : a.SameNamings b) :
    NeverReuses base past b := by
  obtain ⟨hi, hp⟩ := h
  obtain ⟨hia, hipast⟩ := List.forall_mem_cons.mp hi
  obtain ⟨hpa, hppast⟩ := List.pairwise_cons.mp hp
  exact ⟨List.forall_mem_cons.mpr ⟨hia.of_sameNamings hab, hipast⟩,
    List.pairwise_cons.mpr ⟨fun e he => (hpa e he).of_sameNamings hab, hppast⟩⟩

/-- A rerun numbers on from the old stage, whose highest index is that of all before. -/
theorem rerun {old new : Stage} {s : Scheduling} {config : StageConfig} {request : List String}
    {configVersion : String} {now : Instant} (h : NeverReuses base past old)
    (hr : s.rerun old request config configVersion now = .ok new)
    (hstays : old.StaysOnAgents request config base) (hfits : new.AgentIndicesFit) :
    NeverReuses base (old :: past) new := by
  have hold : old.Indexed := h.indexed old List.mem_cons_self
  have htop := Scheduling.topIndex_le_rerun hold hr hfits hstays
  refine ⟨List.forall_mem_cons.mpr ⟨Scheduling.indexed_rerun hold hr hfits, h.indexed⟩,
    List.pairwise_cons.mpr ⟨fun e he => ?_, h.outnumbers⟩⟩
  have hle : e.topIndex base ≤ old.topIndex base := by
    rcases List.mem_cons.mp he with rfl | he
    · exact Nat.le_refl _
    · exact ((List.pairwise_cons.mp h.outnumbers).1 e he).top
  refine ⟨Nat.le_trans hle htop, fun j hj k hk hb => ?_⟩
  obtain ⟨name, i, hne, hname, hlt, hj⟩ := Scheduling.exists_index_rerun hold hr hfits hj
  exact (h.indexed e he).nameDiffers hne hname (Nat.lt_of_le_of_lt hle hlt) hj hk hb

end NeverReuses

namespace Succession

theorem neverReuses (h : Succession base past stage) : NeverReuses base past stage := by
  induction h with
  | start hi hfits =>
    exact ⟨List.forall_mem_cons.mpr ⟨indexed_instantiate hi hfits, nofun⟩,
      List.pairwise_singleton ..⟩
  | goesOn _ hg ih => exact ih.of_sameNamings hg.sameNamings
  | saved _ ih => exact ih.of_sameNamings (sameNamings_save _ _)
  | rerun _ hr hstays hfits ih => exact ih.rerun hr hstays hfits

/-- Along a succession, the highest index of a job never goes down, and no name that was
given to an instance of the job is given again to a new one. -/
theorem outnumbers (h : Succession base past stage) :
    (stage :: past).Pairwise fun later earlier =>
      earlier.topIndex base ≤ later.topIndex base ∧
        ∀ j ∈ later.madeAnew base .runOnAllAgents, ∀ k ∈ earlier.jobs.members,
          Text.sameName base k.baseName = true → Text.sameName j.name k.name = false :=
  h.neverReuses.outnumbers.imp fun ho => ⟨ho.top, ho.fresh⟩

/-- After job `a` was run again twice, the second time on both agents, its new instances
have the indices 4 and 5. -/
theorem outnumbers_thirdRun : ∃ first second third,
    Succession "a" [second, first] third ∧
      (third.madeAnew "a" .runOnAllAgents).map (·.name) = ["a-runOnAll-4", "a-runOnAll-5"] ∧
      second.topIndex "a" ≤ third.topIndex "a" ∧
      ∀ j ∈ third.madeAnew "a" .runOnAllAgents, ∀ k ∈ first.jobs.members,
        Text.sameName "a" k.baseName = true → Text.sameName j.name k.name = false := by
  have hruns : (do
      let second ← twoAgents.rerun passedOnTwoAgents ["a-runOnAll-2"] agentsAndOnce "2" ⟨2, 0⟩
      let passed := second.completeAll .passed ⟨3, 0⟩
      let third ← twoAgents.rerun passed ["a"] agentsAndOnce "3" ⟨4, 0⟩
      .ok (decide ((∀ j ∈ second.jobs.members, j.name.length ≤ 19) ∧
        (∀ j ∈ third.jobs.members, j.name.length ≤ 19) ∧
        (third.madeAnew "a" .runOnAllAgents).map (·.name) = ["a-runOnAll-4", "a-runOnAll-5"])) :
          Except Failure Bool) = .ok true := by
    decide +kernel
  obtain ⟨second, hsecond, hruns⟩ := Outcome.bind_eq_ok.mp hruns
  obtain ⟨third, hthird, hnames⟩ := Outcome.bind_eq_ok.mp hruns
  obtain ⟨hshort, hshort', hnames⟩ := of_decide_eq_true (Except.ok.inj hnames)
  have hstays : ∀ (old : Stage) (request : List String),
      old.StaysOnAgents request agentsAndOnce "a" := fun _ _ _ _ _ =>
    ⟨{ name := "a", runOnAllAgents := true }, by decide +kernel, rfl⟩
  have hstart : Succession "a" [] passedOnTwoAgents :=
    .goesOn (.start instantiate_agentsAndOnce fun j hj _ => indexFits_onTwoAgents j hj)
      (onTwoAgents.completeAll_endsAs _ _).goesOn
  have hrerun : Succession "a" [passedOnTwoAgents] (second.completeAll .passed ⟨3, 0⟩) :=
    .goesOn (.rerun hstart hsecond (hstays _ _) fun j hj _ =>
      JobInstance.indexFits_of_length_le (hshort j hj)) (second.completeAll_endsAs _ _).goesOn
  have hlast : Succession "a" [second.completeAll .passed ⟨3, 0⟩, passedOnTwoAgents] third :=
    .rerun hrerun hthird (hstays _ _) fun j hj _ =>
      JobInstance.indexFits_of_length_le (hshort' j hj)
  obtain ⟨hbefore, -⟩ := List.pairwise_cons.mp (outnumbers hlast)
  exact ⟨_, _, third, hlast, hnames, (hbefore _ List.mem_cons_self).1,
    (hbefore passedOnTwoAgents (by simp)).2⟩

end Succession
end Stage
end StageRuns
