/-
# The layer that a rerun leaves out

The jobs of the first stage of a run see the variables of its cause, over those of the
pipeline. When some of them are rerun, the layers are put on again from the
configuration alone. The cause is not among them, since a rerun asks for none. So each
instance that is made anew has the variables of the one it replaces, but without the
layer of the cause (`Scheduling.rerun_leavesOut`).

An instance of a job that runs once or a number of times replaces the selected
instance of its name: the old stage has the instance of the same job and index, and if
that were copied, two instances of the new stage would have one name
(`Scheduling.selects_of_sameName`).

Key definitions: `JobConfig.HasIndex`, `JobInstance.SamePlan`, `StageConfig.upper`,
`JobInstance.LeavesOut`.
Key theorems: `Scheduling.exists_remakes_at`, `Scheduling.selects_of_sameName`,
`Scheduling.rerun_leavesOut`.
-/
import StageRuns.Proofs.Layers
import StageRuns.Proofs.Chain
import StageRuns.Proofs.PipelineRun
import Mathlib.Logic.Relation

namespace StageRuns

/-! ### Instances by index -/

/-- A job that runs once has an instance without an index, and one that runs a number
of times has an instance for each index up to that number. -/
inductive JobConfig.HasIndex (job : JobConfig) : Option Nat → Prop
  | once : job.runType = .single → HasIndex job none
  | counted {n : Nat} : job.runType = .runMultipleInstance → 1 ≤ n →
      n ≤ job.runInstanceCount.getD 1 → HasIndex job (some n)

variable {s : Scheduling} {job : JobConfig} {config : StageConfig} {j k : JobInstance}
  {i : Option Nat} {now : Instant}

namespace JobInstance

/-- No other index is read from the name than the one it was made with. -/
theorem index?_ne_zero_of_name {base : String} {n : Nat} (hr : j.runType ≠ .single) (hn : 0 < n)
    (hname : j.name = instanceName base j.runType n) : j.index? ≠ some 0 := by
  intro hzero
  rw [JobInstance.index?, hname] at hzero
  have := InstanceName.eq_of_index_parse hr hzero
  omega

/-- The index under which an instance runs again is not zero either. -/
theorem one_le_index (h : j.index? ≠ some 0) : 1 ≤ j.index?.getD 1 := by
  cases hi : j.index? with
  | none => exact Nat.le_refl 1
  | some n =>
    have hn : n ≠ 0 := fun e => h (e ▸ hi)
    exact Nat.one_le_iff_ne_zero.mpr hn

end JobInstance

namespace Scheduling

variable {stageName : String}

theorem exists_mem_expansion (s : Scheduling) (stageName : String) (now : Instant)
    (hi : job.HasIndex i) : ∃ j ∈ s.expansion stageName now job, j.NamedFor job i := by
  cases hi with
  | once hr =>
    rw [expansion_of_single hr]
    exact ⟨_, List.mem_singleton_self _, .once hr rfl rfl⟩
  | @counted n hr hpos hle =>
    have hne : job.runType ≠ .single := by
      rw [hr]
      exact nofun
    obtain ⟨m, rfl⟩ : ∃ m, n = m + 1 := ⟨n - 1, by omega⟩
    rw [expansion_of_runMultiple hr]
    exact ⟨_, List.mem_map_of_mem (List.mem_range.mpr hle),
      .numbered hne hr.symm (by rw [hr]; rfl)⟩

/-- Indices count from 1 on. -/
theorem index?_ne_zero (hj : j ∈ s.expansion stageName now job) : j.index? ≠ some 0 := by
  cases expands_of_mem hj with
  | once _ =>
    rw [JobInstance.index?_of_single rfl]
    exact (Option.some_ne_none 0).symm
  | onAgent _ hk _ =>
    have hall : RunType.runOnAllAgents ≠ .single := by decide
    exact JobInstance.index?_ne_zero_of_name hall hk rfl
  | @atIndex n _ _ =>
    have hmultiple : RunType.runMultipleInstance ≠ .single := by decide
    exact JobInstance.index?_ne_zero_of_name hmultiple n.succ_pos rfl

end Scheduling

/-- An instance that is made anew has an index of its job, if indices were read that
count from 1 on. -/
theorem RerunGroup.Renewal.hasIndex {g : RerunGroup} {old : Stage} {fresh : List JobInstance}
    (h : g.Renewal old job s now fresh) (hpos : ∀ m ∈ g.members, m.index? ≠ some 0)
    (hj : j ∈ fresh) (hr : j.runType ≠ .runOnAllAgents) :
    ∃ i, job.HasIndex i ∧ j.NamedFor { job with name := g.base } i := by
  cases h with
  | once _ hjob | onSameAgent _ hjob =>
    rw [List.mem_singleton.mp hj]
    exact ⟨none, .once hjob, .once hjob rfl rfl⟩
  | onFreeAgents =>
    obtain ⟨_, _, _, _, rfl⟩ := mem_agentRow hj
    exact absurd rfl hr
  | atIndices _ hjob hle =>
    obtain ⟨m, hm, rfl⟩ := List.mem_map.mp hj
    refine ⟨some (m.index?.getD 1), .counted hjob (JobInstance.one_le_index (hpos m hm)) (hle m hm),
      .numbered ?_ hjob.symm ?_⟩
    · show job.runType ≠ .single
      rw [hjob]
      exact nofun
    · show _ = instanceName g.base job.runType _
      rw [hjob]
      rfl

/-- Instances that are made anew count from 1 on as well. -/
theorem RerunGroup.Renewal.index?_ne_zero {g : RerunGroup} {old : Stage}
    {fresh : List JobInstance} (h : g.Renewal old job s now fresh)
    (hpos : ∀ m ∈ g.members, m.index? ≠ some 0) (hj : j ∈ fresh) : j.index? ≠ some 0 := by
  cases h with
  | once | onSameAgent =>
    rw [List.mem_singleton.mp hj, JobInstance.index?_of_single rfl]
    exact (Option.some_ne_none 0).symm
  | onFreeAgents =>
    obtain ⟨n, hn, _, _, rfl⟩ := mem_agentRow hj
    have hall : RunType.runOnAllAgents ≠ .single := by decide
    exact JobInstance.index?_ne_zero_of_name hall (Nat.zero_lt_of_lt hn) rfl
  | atIndices =>
    obtain ⟨m, hm, rfl⟩ := List.mem_map.mp hj
    have hmultiple : RunType.runMultipleInstance ≠ .single := by decide
    exact JobInstance.index?_ne_zero_of_name hmultiple (JobInstance.one_le_index (hpos m hm)) rfl

/-! ### What is replaced -/

/-- Both instances have the same name, run type and plan. -/
structure JobInstance.SamePlan (a b : JobInstance) : Prop where
  name : b.name = a.name
  runType : b.runType = a.runType
  plan : b.plan = a.plan

namespace JobInstance

variable {a b c : JobInstance}

theorem SamePlan.trans (hab : a.SamePlan b) (hbc : b.SamePlan c) : a.SamePlan c :=
  ⟨hbc.name.trans hab.name, hbc.runType.trans hab.runType, hbc.plan.trans hab.plan⟩

theorem GoesOn.samePlan (h : a.GoesOn b) : a.SamePlan b := by
  have hmoved : ∀ {b : JobInstance} {state : JobState} {time : Instant},
      a.moveTo state time = .ok b → a.SamePlan b := by
    intro b state time h
    obtain ⟨-, rfl⟩ := moveTo_eq_ok.mp h
    exact ⟨rfl, rfl, rfl⟩
  cases h with
  | rests => exact ⟨rfl, rfl, rfl⟩
  | moves h => exact hmoved (changeState_eq_ok.mp h).2
  | assigned h =>
    obtain ⟨moved, hm, rfl⟩ := Outcome.map_eq_ok.mp h
    obtain ⟨hn, hr, hp⟩ := hmoved (changeState_eq_ok.mp hm).2
    exact ⟨hn, hr, hp⟩
  | completes h =>
    obtain ⟨moved, hm, rfl⟩ := Outcome.map_eq_ok.mp h
    obtain ⟨hn, hr, hp⟩ := hmoved hm
    exact ⟨hn, hr, hp⟩

end JobInstance

/-- Whatever its jobs do, a stage keeps its name and their plans. -/
theorem Stage.samePlans_of_goesOn {stage done : Stage}
    (h : Relation.ReflTransGen Stage.GoesOn stage done) : done.name = stage.name ∧
      List.Forall₂ JobInstance.SamePlan stage.jobs.members done.jobs.members := by
  induction h with
  | refl => exact ⟨rfl, List.forall₂_same.mpr fun _ _ => ⟨rfl, rfl, rfl⟩⟩
  | tail _ hstep ih =>
    obtain ⟨jobs, hjobs, rfl⟩ := hstep
    exact ⟨ih.1, Lists.forall₂_trans (fun _ _ _ => .trans) ih.2
      (hjobs.imp fun _ _ h => h.samePlan)⟩

namespace Scheduling

variable {old new : Stage} {request : List String} {configVersion : String}

/-- An instance that is made anew for a job that does not run on all agents is named
for an index that the job has. -/
theorem exists_remakes_at (hpos : ∀ m ∈ old.jobs.members, m.index? ≠ some 0)
    (h : s.rerun old request config configVersion now = .ok new) (hk : k ∈ new.jobs.members)
    (hrerun : k.isRerun = true) (hr : k.runType ≠ .runOnAllAgents) :
    ∃ base job i, config.job? base = some job ∧ k.NamedFor { job with name := base } i ∧
      job.HasIndex i := by
  obtain ⟨-, -, rs, hrs, -, rfl⟩ := rerun_eq_ok.mp h
  rcases mem_mergeReplacements hk with ⟨m, _, _, rfl⟩ | ⟨r, hr', hk⟩
  · obtain ⟨agent, hm⟩ := config.exists_keep_eq m
    rw [hm] at hrerun
    cases hrerun
  · obtain ⟨g, hg, made, fresh, hc, hf, rfl⟩ := hrs.exists_group hr'
    obtain ⟨c, hcf, rfl⟩ := List.mem_map.mp hk
    have hmembers : ∀ m ∈ g.members, m.index? ≠ some 0 := fun m hm =>
      hpos m ((Stage.mem_members_of_mem_groups hg).mp hm).1.1
    obtain ⟨i, hi, hn⟩ := hf.hasIndex hmembers hcf hr
    exact ⟨g.base, made, i, hc, hn.of_eq rfl rfl, hi⟩

/-- An old instance that has the name of one that was made anew was selected. -/
theorem selects_of_sameName (h : s.rerun old request config configVersion now = .ok new)
    (hj : j ∈ old.jobs.members) (hk : k ∈ new.jobs.members) (hrerun : k.isRerun = true)
    (hn : Text.sameName j.name k.name = true) : old.Selects request j := by
  obtain ⟨-, -, rs, hrs, hd, rfl⟩ := rerun_eq_ok.mp h
  rw [← Stage.selects_iff hj]
  by_contra hno
  -- its copy would have the name as well
  have hcopy := hrs.keep_mem_merged hj (Bool.eq_false_iff.mpr hno)
  obtain ⟨agent, hkeep⟩ := config.exists_keep_eq j
  rw [hkeep] at hcopy
  have hsame : _ = k := hd.eq_of_sameName hcopy hk hn
  rw [← hsame] at hrerun
  cases hrerun

end Scheduling

/-! ### The layer of the cause -/

/-- The layers of the stage and of the job, one over the other. -/
def StageConfig.upper (config : StageConfig) (job : JobConfig) : Variables :=
  ⟨config.environment.entries ++ job.environment.entries⟩

/-- The variables of the instance `again` come from the layers that those of the
instance `seen` come from, but for one layer: there are those below and above it, and in
front of all those that tell the instance its index. -/
structure JobInstance.LeavesOut (again seen : JobInstance) (layer below above : Variables)
    (front : List Variable) : Prop where
  planned : seen.plan.environment =
    ((below.overriddenBy layer).overriddenBy above).inFront front
  replanned : again.plan.environment = (below.overriddenBy above).inFront front
  /-- A variable is another one exactly if the layer has one of the name, no layer above
  has one, and what is below is not the same. -/
  first : ∀ name, seen.plan.environment.first? name = again.plan.environment.first? name ↔
    (name ∈ layer.names → name ∉ front.map (·.name) → name ∉ above.names →
      layer.last? name = below.first? name)
  /-- The lists are equal exactly if all variables are, and the names that the layer
  brings come first among those that are brought without it. -/
  equal : seen.plan.environment = again.plan.environment ↔
    (∀ name ∈ layer.names, name ∉ front.map (·.name) → name ∉ above.names →
      layer.last? name = below.first? name) ∧
    (below.brought layer.names).filter (fun name => name ∉ front.map (·.name)) <+:
      (below.brought above.names).filter fun name => name ∉ front.map (·.name)

theorem JobInstance.leavesOut_of_eq {again seen : JobInstance} {layer below above : Variables}
    {front : List Variable} (hfront : Variables.latest front = front)
    (hseen : seen.plan.environment =
      ((below.overriddenBy layer).overriddenBy above).inFront front)
    (hagain : again.plan.environment = (below.overriddenBy above).inFront front) :
    again.LeavesOut seen layer below above front := by
  refine ⟨hseen, hagain, fun name => ?_, ?_⟩
  · rw [hseen, hagain]
    exact Variables.first?_leftOut_iff below layer above name
  · rw [hseen, hagain]
    exact Variables.leftOut_eq_iff below layer above hfront

namespace Scheduling

variable {pipeline : PipelineConfig} {cause : BuildCause} {run : Pipeline}
  {stage done new : Stage} {request : List String} {configVersion configVersion' : String}
  {now' : Instant}

theorem stage?_firstStage {first : StageConfig} (h : pipeline.firstStage? = some first) :
    pipeline.stage? first.name = some first := by
  obtain ⟨rest, hstages⟩ := List.head?_eq_some_iff.mp h
  rw [PipelineConfig.stage?, hstages]
  exact List.find?_cons_of_pos (Text.sameName_self _)

/-- The layers of stage and job are put on one after the other. -/
theorem variablesAt_upper {below : Variables}
    (hs : s.environment = below.overriddenBy config.environment) (job : JobConfig)
    (i : Option Nat) : s.variablesAt job i =
      (below.overriddenBy (config.upper job)).inFront (job.runVariables i) := by
  rw [variablesAt, StageConfig.upper, ← Variables.overriddenBy_overriddenBy, hs]

/-- When jobs of the first stage of a run are run again, each new instance of a job that
runs once or a number of times replaces the selected instance of its name. Its variables
come from the same layers, but the one of the cause is left out. -/
theorem rerun_leavesOut (hnames : pipeline.environment.names.Nodup)
    (hrun : s.run pipeline cause configVersion now = .ok run)
    (hstage : run.firstStage? = some stage)
    (hdone : Relation.ReflTransGen Stage.GoesOn stage done)
    (hrerun : s.rerunNamed pipeline done stage.name request configVersion' now' = .ok new) :
    ∃ first, pipeline.firstStage? = some first ∧ ∀ k ∈ new.jobs.members, k.isRerun = true →
      k.runType ≠ .runOnAllAgents → ∃ j ∈ done.jobs.members, done.Selects request j ∧
        Text.sameName j.name k.name = true ∧ j.runType = k.runType ∧
          ∃ job i, first.Makes job i j ∧ first.Remakes job i k ∧
            k.LeavesOut j cause.environment (s.environment.overriddenBy pipeline.environment)
              (first.upper job) (job.runVariables i) := by
  obtain ⟨-, first, made, hf, hmade, rfl⟩ := run_eq_ok.mp hrun
  obtain rfl : made = stage := Option.some.inj hstage
  obtain ⟨hname, hplans⟩ := Stage.samePlans_of_goesOn hdone
  obtain ⟨hcan, hdiffer, hfresh⟩ := instantiate_eq_ok.mp hmade
  -- the rerun finds the configuration that the run started with
  obtain ⟨config, hc, hnew⟩ := rerunNamed_eq_ok.mp hrerun
  have hsame : made.name = first.name := by rw [hfresh]; rfl
  rw [hsame, stage?_firstStage hf] at hc
  obtain rfl : first = config := Option.some.inj hc
  refine ⟨first, hf, fun k hk hkr hkt => ?_⟩
  have hpos : ∀ m ∈ done.jobs.members, m.index? ≠ some 0 := by
    intro m hm
    obtain ⟨f, hf, hfm⟩ := Lists.exists_left hplans hm
    rw [hfresh] at hf
    obtain ⟨_, _, hf⟩ := List.mem_flatMap.mp hf
    rw [JobInstance.index?, hfm.name, hfm.runType]
    exact index?_ne_zero hf
  obtain ⟨base, job, i, hjob, hki, hi⟩ := exists_remakes_at hpos hnew hk hkr hkt
  have hjobs : job ∈ first.jobs := List.mem_of_find?_eq_some hjob
  have hbase : Text.sameName job.name base = true := by
    have hfound := hjob
    rw [StageConfig.job?] at hfound
    have hsome := List.find?_some hfound
    exact hsome
  -- the run made an instance of the job for the same index
  obtain ⟨f, hf, hfi⟩ := exists_mem_expansion
    ((s.inside pipeline (pipeline.environment.overriddenBy cause.environment)).withVariables
      first.environment) first.name now hi
  have hmem : f ∈ made.jobs.members := by
    rw [hfresh]
    exact List.mem_flatMap.mpr ⟨job, hjobs, hf⟩
  obtain ⟨j, hj, hfj⟩ := Lists.exists_right hplans hmem
  have hji : j.NamedFor job i := hfi.of_eq hfj.name hfj.runType
  have hn : Text.sameName j.name k.name = true := hji.sameName hki rfl hbase
  refine ⟨j, hj, selects_of_sameName hnew hj hk hkr hn, hn, ?_, job, i, ⟨hjobs, hji⟩,
    ⟨base, hjob, hki⟩, ?_⟩
  · rw [hji.runType_eq, hki.runType_eq]
    rfl
  · have hseen := (environment_of_makes hmade hmem).2 job i ⟨hjobs, hfi⟩
    rw [← hfj.plan] at hseen
    have hagain := (environment_of_remakes hnew hk hkr).2 job i ⟨base, hjob, hki⟩
    refine JobInstance.leavesOut_of_eq (job.latest_runVariables i)
      (hseen.trans (variablesAt_upper ?_ job i)) (hagain.trans (variablesAt_upper rfl job i))
    rw [← Variables.overriddenBy_merged hnames]
    rfl

/-- A pipeline without variables, whose job does not set the variable of the cause. -/
theorem rerun_leavesOut_settingX : ∃ run stage new,
    Scheduling.run {} (labelledByX []) settingX "v" ⟨0, 0⟩ = .ok run ∧
    run.firstStage? = some stage ∧
    Scheduling.rerunNamed {} (labelledByX []) (stage.completeAll .passed ⟨1, 0⟩) "s" ["j"] "v"
      ⟨2, 0⟩ = .ok new ∧
    ∃ k ∈ new.jobs.members, k.isRerun = true ∧
      ∃ j ∈ (stage.completeAll .passed ⟨1, 0⟩).jobs.members, Text.sameName j.name k.name = true ∧
        k.plan.environment = .empty ∧ j.plan.environment = settingX.environment := by
  have hruns : (do
      let run ← Scheduling.run {} (labelledByX []) settingX "v" ⟨0, 0⟩
      match run.firstStage? with
      | none => .ok false
      | some stage =>
        let new ← Scheduling.rerunNamed {} (labelledByX []) (stage.completeAll .passed ⟨1, 0⟩) "s"
          ["j"] "v" ⟨2, 0⟩
        .ok (decide (stage.name = "s" ∧ ∃ k ∈ new.jobs.members,
          k.isRerun = true ∧ k.runType ≠ .runOnAllAgents)) : Except Failure Bool) = .ok true := by
    decide +kernel
  obtain ⟨run, hrun, hruns⟩ := Outcome.bind_eq_ok.mp hruns
  cases hstage : run.firstStage? with
  | none =>
    rw [hstage] at hruns
    cases hruns
  | some stage =>
    rw [hstage] at hruns
    obtain ⟨new, hnew, hk⟩ := Outcome.bind_eq_ok.mp hruns
    obtain ⟨hname, k, hk, hkr, hkt⟩ := of_decide_eq_true (Except.ok.inj hk)
    have hdone : Relation.ReflTransGen Stage.GoesOn stage (stage.completeAll .passed ⟨1, 0⟩) :=
      .single (stage.completeAll_endsAs _ _).goesOn
    have hrerun := hnew
    rw [← hname] at hrerun
    have hnames : (labelledByX []).environment.names.Nodup := List.nodup_nil
    obtain ⟨first, hf, hall⟩ := rerun_leavesOut hnames hrun hstage hdone hrerun
    cases hf
    obtain ⟨j, hj, -, hn, -, job, i, ⟨hjob, -⟩, -, hleaves⟩ := hall k hk hkr hkt
    cases List.mem_singleton.mp hjob
    exact ⟨run, stage, new, hrun, hstage, hnew, k, hk, hkr, j, hj, hn, hleaves.replanned,
      hleaves.planned⟩

/-- The cause of a run sets a variable that the job sees. When the job is run again, with
the same configuration and in the same surroundings, it does not see it. -/
theorem rerun_loses_cause : ∃ run stage done new,
    Scheduling.run {} (labelledByX []) settingX "v" ⟨0, 0⟩ = .ok run ∧
    run.firstStage? = some stage ∧ done = stage.completeAll .passed ⟨1, 0⟩ ∧
    Scheduling.rerunNamed {} (labelledByX []) done "s" ["j"] "v" ⟨2, 0⟩ = .ok new ∧
    ∃ j k, done.jobs.members = [j] ∧ new.jobs.members = [k] ∧ j.name = k.name ∧
      j.runType = .single ∧ k.isRerun = true ∧ j.plan.environment ≠ k.plan.environment := by
  have hruns : (do
      let run ← Scheduling.run {} (labelledByX []) settingX "v" ⟨0, 0⟩
      match run.firstStage? with
      | none => .ok false
      | some stage =>
        let done := stage.completeAll .passed ⟨1, 0⟩
        let new ← Scheduling.rerunNamed {} (labelledByX []) done "s" ["j"] "v" ⟨2, 0⟩
        .ok (decide (done.jobs.members.length = 1 ∧ new.jobs.members.length = 1 ∧
          ∃ j ∈ done.jobs.members, ∃ k ∈ new.jobs.members, j.name = k.name ∧
            j.runType = .single ∧ k.isRerun = true ∧
              j.plan.environment ≠ k.plan.environment)) : Except Failure Bool) = .ok true := by
    decide +kernel
  obtain ⟨run, hrun, hruns⟩ := Outcome.bind_eq_ok.mp hruns
  cases hstage : run.firstStage? with
  | none =>
    rw [hstage] at hruns
    cases hruns
  | some stage =>
    rw [hstage] at hruns
    obtain ⟨new, hnew, hruns⟩ := Outcome.bind_eq_ok.mp hruns
    obtain ⟨hdone, hmade, j, hj, k, hk, hn, hr, hkr, hne⟩ :=
      of_decide_eq_true (Except.ok.inj hruns)
    obtain ⟨j', hj'⟩ := List.length_eq_one_iff.mp hdone
    obtain ⟨k', hk'⟩ := List.length_eq_one_iff.mp hmade
    rw [hj'] at hj
    rw [hk'] at hk
    cases List.mem_singleton.mp hj
    cases List.mem_singleton.mp hk
    exact ⟨run, stage, _, new, hrun, hstage, rfl, hnew, j, k, hj', hk', hn, hr, hkr, hne⟩

end Scheduling
end StageRuns
