/-
# The variables of an instance

The variables of an instance lie in four layers: those of the surroundings, of
the pipeline, of the stage and of the job. Under each name an instance has the
last variable of the uppermost layer that holds the name; of the surroundings,
which are not put over anything, it has the first one (`JobPlan.HasLayers`). Only
the two variables that tell an instance its index among a number are above all
layers.

Instantiation and rerun put the layers on at different places, one job by job for
a new stage, the other group by group for the selected instances of an old one.
Both give an instance the variables `Scheduling.variablesAt`, in surroundings that
hold the layers of pipeline and stage (`Scheduling.environment_of_makes`,
`Scheduling.environment_of_remakes`), so that both give the same
(`Scheduling.hasLayers_of_ok`).

Key definitions: `JobConfig.runNames`, `Scheduling.variablesAt`,
`Variables.layered?`, `JobPlan.HasLayers`, `StageConfig.Makes`,
`StageConfig.Remakes`.
Key theorems: `Scheduling.hasLayers_variablesAt`, `JobInstance.NamedFor.unique`,
`Scheduling.eq_of_makes`, `Scheduling.environment_of_makes`,
`Scheduling.environment_of_remakes`, `Scheduling.hasLayers_of_ok`.
-/
import StageRuns.Proofs.Rerun.NameClash
import StageRuns.Proofs.Variables

namespace StageRuns

/-! ### Layers -/

namespace JobConfig

/-- The variables that tell an instance its index and the number of instances. -/
def runVariables (job : JobConfig) (i : Option Nat) : List Variable :=
  if job.runType = .runMultipleInstance then
    [⟨indexVariable, String.ofList (Text.digitsOfNat (i.getD 1)), false⟩,
      ⟨countVariable, String.ofList (Text.digitsOfNat (job.runInstanceCount.getD 1)), false⟩]
  else []

/-- The names of these variables. -/
def runNames (job : JobConfig) : List String :=
  if job.runType = .runMultipleInstance then [indexVariable, countVariable] else []

variable {job : JobConfig}

theorem map_name_runVariables (job : JobConfig) (i : Option Nat) :
    (job.runVariables i).map (·.name) = job.runNames := by
  unfold runVariables runNames
  by_cases h : job.runType = .runMultipleInstance
  · rw [if_pos h, if_pos h]
    rfl
  · rw [if_neg h, if_neg h]
    rfl

/-- The two variables have different names, so that both stay. -/
theorem latest_runVariables (job : JobConfig) (i : Option Nat) :
    Variables.latest (job.runVariables i) = job.runVariables i := by
  unfold runVariables
  by_cases h : job.runType = .runMultipleInstance
  · rw [if_pos h]
    rfl
  · rw [if_neg h]
    rfl

theorem nodup_runNames (job : JobConfig) : job.runNames.Nodup := by
  unfold runNames
  by_cases h : job.runType = .runMultipleInstance
  · rw [if_pos h]
    decide
  · rw [if_neg h]
    exact List.nodup_nil

end JobConfig

/-- The variables that the instance of an index has in these surroundings. -/
def Scheduling.variablesAt (s : Scheduling) (job : JobConfig) (i : Option Nat) : Variables :=
  (s.environment.overriddenBy job.environment).inFront (job.runVariables i)

namespace Variables

/-- What four layers hold under a name: the last variable of the uppermost one that
has the name, or else the first one of the lowest. -/
def layered? (context pipeline stage job : Variables) (name : String) : Option Variable :=
  (job.last? name).or ((stage.last? name).or ((pipeline.last? name).or (context.first? name)))

end Variables

/-- The variables of the plan are those of four layers. Only above them stand those
that tell an instance its index. -/
structure JobPlan.HasLayers (plan : JobPlan) (context pipeline stage : Variables)
    (job : JobConfig) : Prop where
  found : ∀ name ∉ job.runNames, plan.environment.first? name =
    Variables.layered? context pipeline stage job.environment name
  value : ∀ name ∉ job.runNames, plan.environment.get? name =
    (Variables.layered? context pipeline stage job.environment name).map (·.value)
  nodup : context.names.Nodup → plan.environment.names.Nodup
  /-- Names stand in the order in which they occur first. -/
  order : context.names.Nodup → plan.environment.names = job.runNames ++
    (context.names ++ pipeline.names ++ stage.names ++ job.environment.names).eraseDups.filter
      fun name => name ∉ job.runNames

namespace Scheduling

variable {s : Scheduling} {context pipeline stage : Variables} {job : JobConfig}

theorem first?_variablesAt {name : String} (h : name ∉ job.runNames) (i : Option Nat) :
    (s.variablesAt job i).first? name =
      (job.environment.last? name).or (s.environment.first? name) := by
  have hfront : name ∉ (job.runVariables i).map (·.name) := by
    rw [job.map_name_runVariables]
    exact h
  rw [variablesAt, Variables.first?_inFront _ hfront, Variables.first?_overriddenBy]

theorem names_variablesAt (s : Scheduling) (job : JobConfig) (i : Option Nat) :
    (s.variablesAt job i).names = job.runNames ++
      (s.environment.overriddenBy job.environment).names.filter fun name => name ∉ job.runNames := by
  rw [variablesAt, Variables.names_inFront _ (job.latest_runVariables i),
    job.map_name_runVariables]

/-- In surroundings that hold the layers of pipeline and stage, an instance has all
four. -/
theorem hasLayers_variablesAt
    (hs : s.environment = (context.overriddenBy pipeline).overriddenBy stage) {plan : JobPlan}
    {i : Option Nat} (hp : plan.environment = s.variablesAt job i) :
    plan.HasLayers context pipeline stage job := by
  have hfound : ∀ name ∉ job.runNames, plan.environment.first? name =
      Variables.layered? context pipeline stage job.environment name := by
    intro name hname
    rw [hp, first?_variablesAt hname, hs, Variables.first?_overriddenBy,
      Variables.first?_overriddenBy]
    rfl
  have hnames : context.names.Nodup → (s.environment.overriddenBy job.environment).names =
      (context.names ++ pipeline.names ++ stage.names ++ job.environment.names).eraseDups := by
    intro hc
    have hcontext := (Variables.eraseDups_of_nodup hc).symm
    have hpipeline := Variables.names_overriddenBy hcontext pipeline
    have hstage := Variables.names_overriddenBy hpipeline stage
    rw [← hs] at hstage
    exact Variables.names_overriddenBy hstage job.environment
  refine ⟨hfound, fun name hname => ?_, fun hc => ?_, fun hc => ?_⟩
  · rw [Variables.get?_eq_first?, hfound name hname]
  · have hinner : (s.environment.overriddenBy job.environment).names.Nodup := by
      rw [hs]
      exact Variables.nodup_names_overriddenBy (Variables.nodup_names_overriddenBy
        (Variables.nodup_names_overriddenBy hc pipeline) stage) job.environment
    rw [hp, names_variablesAt, List.nodup_append]
    refine ⟨job.nodup_runNames, hinner.filter _, fun a ha b hb he => ?_⟩
    have hno : b ∉ job.runNames := of_decide_eq_true (List.mem_filter.mp hb).2
    exact hno (he ▸ ha)
  · rw [hp, names_variablesAt, hnames hc]

end Scheduling

/-! ### Instances of a job -/

/-- The instance is named for a job of the configuration. -/
def StageConfig.Makes (config : StageConfig) (job : JobConfig) (i : Option Nat)
    (j : JobInstance) : Prop :=
  job ∈ config.jobs ∧ j.NamedFor job i

/-- The instance is named for the job that the configuration has under a name. -/
def StageConfig.Remakes (config : StageConfig) (job : JobConfig) (i : Option Nat)
    (j : JobInstance) : Prop :=
  ∃ base, config.job? base = some job ∧ j.NamedFor { job with name := base } i

variable {s : Scheduling} {now : Instant} {job : JobConfig} {config : StageConfig}
  {j : JobInstance} {i : Option Nat}

namespace JobInstance.NamedFor

variable {x y : JobConfig} {k : Option Nat}

/-- An instance is named for jobs of one run type and one name only, under one
index. -/
theorem unique (h : j.NamedFor x i) (h' : j.NamedFor y k) :
    x.runType = y.runType ∧ Text.sameName x.name y.name = true ∧ i = k := by
  have hr : x.runType = y.runType := h.runType_eq.symm.trans h'.runType_eq
  cases h with
  | once hx _ hn =>
    cases h' with
    | once _ _ hn' =>
      rw [hn] at hn'
      exact ⟨hr, by rw [hn']; exact Text.sameName_self _, rfl⟩
    | numbered hy => exact absurd (hr.symm.trans hx) hy
  | numbered hx _ hn =>
    cases h' with
    | once hy => exact absurd (hr.trans hy) hx
    | numbered hy _ hn' =>
      have hsame : Text.sameName j.name j.name = true := Text.sameName_self _
      nth_rewrite 1 [hn] at hsame
      rw [hn'] at hsame
      obtain ⟨-, hi, hname⟩ := sameName_instanceName hx hy hsame
      exact ⟨hr, hname, congrArg some hi⟩

/-- Jobs of one run type and one name give the same names. -/
theorem sameName {a b : JobInstance} (ha : a.NamedFor x i) (hb : b.NamedFor y i)
    (hr : x.runType = y.runType) (hn : Text.sameName x.name y.name = true) :
    Text.sameName a.name b.name = true := by
  cases ha with
  | once _ _ hna =>
    cases hb with
    | once _ _ hnb => rwa [hna, hnb]
  | numbered _ _ hna =>
    cases hb with
    | numbered _ _ hnb =>
      rw [hna, hnb, hr]
      exact sameName_instanceName_congr hn _ _

end JobInstance.NamedFor

namespace Scheduling

variable {stageName : String}

/-- Only the instances of a number are told their index. -/
theorem variablesAt_of_ne (s : Scheduling) (h : job.runType ≠ .runMultipleInstance)
    (i : Option Nat) : s.variablesAt job i = s.environment.overriddenBy job.environment := by
  rw [variablesAt, JobConfig.runVariables, if_neg h]
  simp [Variables.inFront, Variables.latest]

/-- An instance of a new stage has the variables of its index. -/
theorem environment_of_mem_expansion (hj : j ∈ s.expansion stageName now job) :
    ∃ i, j.NamedFor job i ∧ j.plan.environment = s.variablesAt job i := by
  obtain ⟨i, hi⟩ := exists_fills hj
  cases expands_of_mem hj with
  | once hr =>
    refine ⟨i, hi.named, ?_⟩
    rw [s.variablesAt_of_ne (by rw [hr]; exact nofun)]
    rfl
  | onAgent hr _ _ =>
    refine ⟨i, hi.named, ?_⟩
    rw [s.variablesAt_of_ne (by rw [hr]; exact nofun)]
    rfl
  | @atIndex k hr _ =>
    refine ⟨some (k + 1), .numbered (by rw [hr]; exact nofun) hr.symm (by rw [hr]; rfl), ?_⟩
    rw [variablesAt, JobConfig.runVariables, if_pos hr]
    rfl

end Scheduling

namespace RerunGroup

variable {g : RerunGroup} {old : Stage} {fresh : List JobInstance}

/-- An instance that is made anew has the variables of its index. -/
theorem Renewal.environment_of_mem (h : g.Renewal old job s now fresh) (hj : j ∈ fresh) :
    ∃ i, j.NamedFor { job with name := g.base } i ∧ j.plan.environment = s.variablesAt job i := by
  obtain ⟨i, hi⟩ := h.exists_namedFor hj
  cases h with
  | once _ hr | onSameAgent _ hr =>
    refine ⟨i, hi, ?_⟩
    rw [List.mem_singleton.mp hj, s.variablesAt_of_ne (by rw [hr]; exact nofun)]
    rfl
  | onFreeAgents _ hr =>
    obtain ⟨_, _, _, _, rfl⟩ := mem_agentRow hj
    refine ⟨i, hi, ?_⟩
    rw [s.variablesAt_of_ne (by rw [hr]; exact nofun)]
    rfl
  | atIndices _ hr =>
    obtain ⟨k, _, rfl⟩ := List.mem_map.mp hj
    refine ⟨some (k.index?.getD 1), .numbered ?_ hr.symm ?_, ?_⟩
    · show job.runType ≠ .single
      rw [hr]
      exact nofun
    · show _ = instanceName g.base job.runType _
      rw [hr]
      rfl
    · rw [Scheduling.variablesAt, JobConfig.runVariables, if_pos hr]
      rfl

end RerunGroup

/-! ### Stages -/

namespace Scheduling

variable {stageName : String}

/-- A job that can be expanded has a first instance, of index 1 if it has one. -/
theorem exists_first_mem_expansion (s : Scheduling) (stageName : String) (now : Instant)
    (hc : s.CanExpand job) :
    ∃ j ∈ s.expansion stageName now job,
      j.NamedFor job (if job.runType = .single then none else some 1) := by
  cases hr : job.runType with
  | single =>
    rw [expansion_of_single hr]
    exact ⟨_, List.mem_singleton_self _, .once hr rfl rfl⟩
  | runOnAllAgents =>
    rw [expansion_of_runOnAllAgents hr]
    obtain ⟨agent, rest, ha⟩ := List.exists_cons_of_ne_nil (hc hr)
    rw [ha, agentRow]
    exact ⟨_, List.mem_cons_self, .numbered (by rw [hr]; decide) hr.symm (by rw [hr]; rfl)⟩
  | runMultipleInstance =>
    rw [expansion_of_runMultiple hr]
    have hmem : 0 ∈ List.range (job.runInstanceCount.getD 1) :=
      List.mem_range.mpr (job.runInstanceCount_pos hr)
    exact ⟨_, List.mem_map_of_mem hmem,
      .numbered (by rw [hr]; decide) hr.symm (by rw [hr]; rfl)⟩

/-- If the instances of all jobs have different names, each is named for one job
only: two jobs of the same name and run type would both have a first instance. -/
theorem eq_of_makes {x y : JobConfig} {k : Option Nat} (hc : ∀ job ∈ config.jobs, s.CanExpand job)
    (hd : NamesDiffer (s.expansions config now)) (hx : config.Makes x i j)
    (hy : config.Makes y k j) : x = y := by
  by_contra hne
  obtain ⟨hr, hn, -⟩ := hx.2.unique hy.2
  let row := (s.withVariables config.environment).expansion config.name now
  have hjobs : config.jobs.Pairwise fun x y => ∀ a ∈ row x, ∀ b ∈ row y, a.NameDiffers b :=
    (List.pairwise_flatMap.mp hd).2
  have hsymm : Std.Symm fun x y : JobConfig => ∀ a ∈ row x, ∀ b ∈ row y, a.NameDiffers b :=
    ⟨fun _ _ h b hb a ha => (h a ha b hb).symm⟩
  obtain ⟨a, ha, hax⟩ := exists_first_mem_expansion (s.withVariables config.environment)
    config.name now (hc x hx.1)
  obtain ⟨b, hb, hby⟩ := exists_first_mem_expansion (s.withVariables config.environment)
    config.name now (hc y hy.1)
  have hdiffer : a.NameDiffers b := hjobs.forall hx.1 hy.1 hne a ha b hb
  rw [← hr] at hby
  rw [JobInstance.NameDiffers, hax.sameName hby hr hn] at hdiffer
  cases hdiffer

variable {configVersion : String} {stage : Stage} {pipeline : PipelineConfig} {upper : Variables}

/-- An instance of a new stage has the variables of the job it is named for. -/
theorem environment_of_makes (h : s.instantiate config configVersion now = .ok stage)
    (hj : j ∈ stage.jobs.members) :
    (∃ job i, config.Makes job i j) ∧ ∀ job i, config.Makes job i j →
      j.plan.environment = (s.withVariables config.environment).variablesAt job i := by
  obtain ⟨hc, hd, rfl⟩ := instantiate_eq_ok.mp h
  obtain ⟨made, hmade, hj⟩ := List.mem_flatMap.mp hj
  obtain ⟨k, hk, he⟩ := environment_of_mem_expansion hj
  refine ⟨⟨made, k, hmade, hk⟩, fun job i hm => ?_⟩
  obtain rfl : job = made := eq_of_makes hc hd hm ⟨hmade, hk⟩
  obtain ⟨-, -, rfl⟩ := hm.2.unique hk
  exact he

/-- An instance that a rerun makes anew has the variables of the job it is named
for. -/
theorem environment_of_remakes {old new : Stage} {request : List String}
    (h : s.rerun old request config configVersion now = .ok new) (hj : j ∈ new.jobs.members)
    (hr : j.isRerun = true) :
    (∃ job i, config.Remakes job i j) ∧ ∀ job i, config.Remakes job i j →
      j.plan.environment = (s.forRerun config).variablesAt job i := by
  obtain ⟨-, -, rs, hrs, -, rfl⟩ := rerun_eq_ok.mp h
  rcases mem_mergeReplacements hj with ⟨k, _, _, rfl⟩ | ⟨r, hr', hj⟩
  · obtain ⟨agent, hk⟩ := config.exists_keep_eq k
    rw [hk] at hr
    cases hr
  · obtain ⟨g, _, made, fresh, hc, hf, rfl⟩ := hrs.exists_group hr'
    obtain ⟨c, hcf, rfl⟩ := List.mem_map.mp hj
    obtain ⟨k, hk, he⟩ := hf.environment_of_mem hcf
    have hk : c.markAsRerun.NamedFor { made with name := g.base } k := hk.of_eq rfl rfl
    refine ⟨⟨made, k, g.base, hc, hk⟩, fun job i ⟨base, hb, hi⟩ => ?_⟩
    obtain ⟨-, hn, rfl⟩ := hi.unique hk
    have hsame : Text.sameName base g.base = true := hn
    rw [config.job?_congr hsame, hc] at hb
    cases hb
    exact he

theorem findStage_eq_ok : findStage pipeline stageName = .ok config ↔
    pipeline.stage? stageName = some config := by
  unfold findStage
  cases h : pipeline.stage? stageName with
  | none => exact ⟨nofun, nofun⟩
  | some found => exact ⟨fun h => by cases h; rfl, fun h => by cases h; rfl⟩

theorem instantiateNamed_eq_ok :
    s.instantiateNamed pipeline stageName configVersion now = .ok stage ↔
      ∃ config, pipeline.stage? stageName = some config ∧
        (s.inside pipeline pipeline.environment).instantiate config configVersion now =
          .ok stage := by
  simp only [instantiateNamed, Outcome.bind_eq_ok, findStage_eq_ok]

theorem rerunNamed_eq_ok {old new : Stage} {request : List String} :
    s.rerunNamed pipeline old stageName request configVersion now = .ok new ↔
      ∃ config, pipeline.stage? stageName = some config ∧
        (s.inside pipeline pipeline.environment).rerun old request config configVersion now =
          .ok new := by
  simp only [rerunNamed, Outcome.bind_eq_ok, findStage_eq_ok]

/-- Whether an instance of a stage of a pipeline is made for a new stage or to run a
job again, its variables are those of the four layers of the job that it is named
for. So two instances of one job, one made in either way, have the same variables,
if they have the same index. -/
theorem hasLayers_of_ok (s : Scheduling) (pipeline : PipelineConfig) (stageName : String) :
    (∀ configVersion now stage,
      s.instantiateNamed pipeline stageName configVersion now = .ok stage →
        ∃ config, pipeline.stage? stageName = some config ∧ ∀ j ∈ stage.jobs.members,
          (∃ job i, config.Makes job i j) ∧ ∀ job i, config.Makes job i j →
            j.plan.HasLayers s.environment pipeline.environment config.environment job) ∧
    (∀ old request configVersion now new,
      s.rerunNamed pipeline old stageName request configVersion now = .ok new →
        ∃ config, pipeline.stage? stageName = some config ∧ ∀ j ∈ new.jobs.members,
          j.isRerun = true → (∃ job i, config.Remakes job i j) ∧ ∀ job i, config.Remakes job i j →
            j.plan.HasLayers s.environment pipeline.environment config.environment job) ∧
    (∀ configVersion now stage old request configVersion' now' new config,
      s.instantiateNamed pipeline stageName configVersion now = .ok stage →
      s.rerunNamed pipeline old stageName request configVersion' now' = .ok new →
      pipeline.stage? stageName = some config →
        ∀ j ∈ stage.jobs.members, ∀ k ∈ new.jobs.members, k.isRerun = true →
          ∀ job i i', config.Makes job i j → config.Remakes job i' k →
            (job.runType = .runMultipleInstance → i = i') →
              j.plan.environment = k.plan.environment) := by
  refine ⟨fun _ _ _ h => ?_, fun _ _ _ _ _ h => ?_, fun _ _ _ _ _ _ _ _ _ h h' hc => ?_⟩
  · obtain ⟨config, hc, hs⟩ := instantiateNamed_eq_ok.mp h
    refine ⟨config, hc, fun j hj => ?_⟩
    obtain ⟨hmade, hall⟩ := environment_of_makes hs hj
    exact ⟨hmade, fun job i hm => hasLayers_variablesAt rfl (hall job i hm)⟩
  · obtain ⟨config, hc, hs⟩ := rerunNamed_eq_ok.mp h
    refine ⟨config, hc, fun j hj hr => ?_⟩
    obtain ⟨hmade, hall⟩ := environment_of_remakes hs hj hr
    exact ⟨hmade, fun job i hm => hasLayers_variablesAt rfl (hall job i hm)⟩
  · obtain ⟨config, hc', hs⟩ := instantiateNamed_eq_ok.mp h
    obtain ⟨config', hc'', hs'⟩ := rerunNamed_eq_ok.mp h'
    rw [hc] at hc' hc''
    cases hc'
    cases hc''
    intro j hj k hk hr job i i' hm hm' hi
    rw [(environment_of_makes hs hj).2 job i hm, (environment_of_remakes hs' hk hr).2 job i' hm']
    by_cases hmulti : job.runType = .runMultipleInstance
    · rw [hi hmulti]
      rfl
    · rw [variablesAt_of_ne _ hmulti, variablesAt_of_ne _ hmulti]
      rfl

/-- Job `a`, which runs twice, with a variable of its own. -/
def runTwice : JobConfig where
  name := "a"
  runInstanceCount := some 2
  environment := ⟨[⟨"Y", "3", true⟩]⟩

/-- A stage of this job alone. -/
def runTwiceStage : StageConfig where
  name := "test"
  jobs := [runTwice]
  environment := ⟨[⟨"Z", "1", false⟩]⟩

/-- A pipeline that lists one name twice. -/
def twiceNamed : PipelineConfig where
  name := "p"
  stages := [runTwiceStage]
  environment := ⟨[⟨"X", "1", false⟩, ⟨"Y", "1", false⟩, ⟨"X", "2", false⟩]⟩

/-- The second instance of the job sees the last value of the name, and so does the
instance that runs it again. -/
theorem hasLayers_of_ok_twiceNamed : ∃ stage new,
    Scheduling.instantiateNamed {} twiceNamed "test" "1" ⟨0, 0⟩ = .ok stage ∧
    Scheduling.rerunNamed {} twiceNamed (stage.completeAll .passed ⟨1, 0⟩) "test"
      ["a-runInstance-2"] "2" ⟨2, 0⟩ = .ok new ∧
    ∃ j ∈ stage.jobs.members, ∃ k ∈ new.jobs.members,
      j.plan.environment.get? "X" = some "2" ∧ k.plan.environment.get? "X" = some "2" ∧
        j.plan.environment = k.plan.environment := by
  have hruns : (do
      let stage ← Scheduling.instantiateNamed {} twiceNamed "test" "1" ⟨0, 0⟩
      let new ← Scheduling.rerunNamed {} twiceNamed (stage.completeAll .passed ⟨1, 0⟩) "test"
        ["a-runInstance-2"] "2" ⟨2, 0⟩
      .ok (decide ((∃ j ∈ stage.jobs.members, j.name = "a-runInstance-2" ∧
          j.runType = .runMultipleInstance) ∧
        ∃ k ∈ new.jobs.members, k.name = "a-runInstance-2" ∧
          k.runType = .runMultipleInstance ∧ k.isRerun = true)) : Except Failure Bool) =
        .ok true := by
    decide +kernel
  obtain ⟨stage, hstage, hruns⟩ := Outcome.bind_eq_ok.mp hruns
  obtain ⟨new, hnew, hnamed⟩ := Outcome.bind_eq_ok.mp hruns
  obtain ⟨⟨j, hj, hjn, hjr⟩, k, hk, hkn, hkr, hkrerun⟩ := of_decide_eq_true (Except.ok.inj hnamed)
  have hmulti : runTwice.runType = .runMultipleInstance := by decide
  have hne : runTwice.runType ≠ .single := by decide
  obtain ⟨hfresh, hrerun, hsame⟩ := hasLayers_of_ok {} twiceNamed "test"
  obtain ⟨config, hc, hmade⟩ := hfresh _ _ _ hstage
  obtain ⟨config', hc', hremade⟩ := hrerun _ _ _ _ _ hnew
  cases hc
  cases hc'
  have hjm : runTwiceStage.Makes runTwice (some 2) j :=
    ⟨List.mem_singleton_self _, .numbered hne (hjr.trans hmulti.symm) (hjn.trans (by decide))⟩
  have hkm : runTwiceStage.Remakes runTwice (some 2) k :=
    ⟨"a", by decide, .numbered hne (hkr.trans hmulti.symm) (hkn.trans (by decide))⟩
  have hjx := ((hmade j hj).2 _ _ hjm).value "X" (by decide)
  have hkx := ((hremade k hk hkrerun).2 _ _ hkm).value "X" (by decide)
  exact ⟨stage, new, hstage, hnew, j, hj, k, hk, hjx, hkx,
    hsame _ _ _ _ _ _ _ _ _ hstage hnew rfl j hj k hk hkrerun _ _ _ hjm hkm fun _ => rfl⟩

end Scheduling
end StageRuns
