/-
# What a run shows and what its jobs see

The variables of the cause lie over those of the pipeline, and a run shows the
result in its label (`Scheduling.run_eq_ok`). The jobs of its first stage see the
same list, put over the variables of the surroundings. So a run shows the first
variable of a name, and its jobs see the last one (`JobPlan.HasLayers`).

If the pipeline holds the name once at most, these are the same: the last variable
of the cause that has the name, or else that of the pipeline. If a pipeline was
read that holds a name twice, the cause replaces only the first of them; the run
shows the variable of the cause, and the jobs see the last one of the pipeline
(`Scheduling.run_agrees_iff`).

Key definitions: `Label.Placeholder.AsksFor`, `Label.CanAskFor`,
`PipelineConfig.start`, `Pipeline.Shows`.
Key theorems: `Label.Values.expand_of_segments`, `Label.segments_variable`,
`Scheduling.run_eq_ok`, `Scheduling.run_agrees_iff`.
-/
import StageRuns.Proofs.Environment
import StageRuns.Proofs.Template
import StageRuns.Proofs.Text

namespace StageRuns

/-! ### Labels -/

namespace Label

/-- The placeholder stands for the variable of a name. -/
def Placeholder.AsksFor (p : Placeholder) (name : String) : Prop :=
  p.name = "env:" ++ name ∨ p.name = "ENV:" ++ name

/-- A placeholder can ask for the variable: its name holds no character that ends a
key, and no blank at the end. -/
def CanAskFor (name : String) : Prop :=
  (∀ c ∈ name.toList, isKeyChar c = true) ∧ ∀ c ∈ name.toList.getLast?, Text.isBlank c = false

variable {p : Placeholder} {name : String}

theorem variableName?_of_asksFor (h : p.AsksFor name) :
    Values.variableName? p.name.toList = some name := by
  rcases h with h | h
  all_goals
    rw [h, String.toList_append]
    simp [Values.variableName?]

theorem not_count_of_asksFor (h : p.AsksFor name) : Text.sameName p.name "COUNT" = false := by
  rw [Bool.eq_false_iff]
  intro hs
  rw [Text.sameName_iff] at hs
  -- the first letters differ
  have hhead := congrArg (fun s : String => s.toList.head?) hs
  rcases h with h | h
  all_goals
    rw [h, Text.asciiLower_append] at hhead
    simp [Text.asciiLower] at hhead

/-- A placeholder that asks for a variable is replaced by its value, whatever number
of characters is to be kept. -/
theorem Values.resolve?_of_asksFor (values : Values) (h : p.AsksFor name) :
    values.resolve? p = values.environment.get? name := by
  rw [resolve?, lookup?, not_count_of_asksFor h, variableName?_of_asksFor h]
  rfl

/-- The value of a variable stands in the label where a placeholder asks for it. -/
theorem Values.expand_of_segments (values : Values) {template value : String}
    {before after : List Segment}
    (hs : segments template.toList = before ++ .placeholder p :: after)
    (h : p.AsksFor name) (hv : values.environment.get? name = some value) :
    values.expand template = String.ofList (before.flatMap values.expandSegment ++ value.toList ++
      after.flatMap values.expandSegment) := by
  have hvalue : values.expandSegment (.placeholder p) = value.toList := by
    rw [expandSegment, values.resolve?_of_asksFor h, hv]
  rw [expand, hs, List.flatMap_append, List.flatMap_cons, hvalue, List.append_assoc]

/-- In a template, the name of a variable after `env:` is read as a placeholder that
asks for it. -/
theorem segments_variable (h : CanAskFor name) (rest : List Char) : ∃ p : Placeholder,
    p.AsksFor name ∧ segments ('$' :: '\x7b' :: ("env:".toList ++ name.toList ++ '\x7d' :: rest)) =
      .placeholder p :: segments rest := by
  obtain ⟨hkey, hlast⟩ := h
  have hprefix : ∀ c ∈ "env:".toList, isKeyChar c = true := List.all_eq_true.mp (by decide)
  have hall : ∀ c ∈ "env:".toList ++ name.toList, isKeyChar c = true := by
    intro c hc
    rcases List.mem_append.mp hc with hc | hc
    · exact hprefix c hc
    · exact hkey c hc
  have htrim : Text.trimChars ("env:".toList ++ name.toList) = "env:".toList ++ name.toList := by
    refine Text.trimChars_eq_self ⟨fun c hc => ?_, fun c hc => ?_⟩
    · cases hc
      decide
    · rw [List.getLast?_append] at hc
      cases hn : name.toList.getLast? with
      | none =>
        rw [hn] at hc
        cases hc
        decide
      | some d =>
        rw [hn] at hc
        cases hc
        exact hlast c hn
  have hvalid : Placeholder.IsValid ⟨"env:".toList ++ name.toList, none⟩ :=
    ⟨by simp, hall, nofun, nofun⟩
  refine ⟨⟨"env:".toList ++ name.toList, none⟩, .inl ?_, ?_⟩
  · rw [Placeholder.name, htrim, String.ofList_append, String.ofList_toList, String.ofList_toList]
  · rw [← segments_written hvalid]
    simp [Placeholder.written]

end Label

/-! ### Runs -/

/-- A run as it starts, with its first stage. -/
def PipelineConfig.start (pipeline : PipelineConfig) (cause : BuildCause) (stage : Stage) :
    Pipeline where
  name := pipeline.name
  cause
  stages := [stage]
  labelTemplate := pipeline.labelTemplate
  environment := pipeline.environment.overriddenBy cause.environment

/-- The run has this value under the name, and its label shows it wherever the
template asks for it; if it asks for nothing else, the value is the label. -/
structure Pipeline.Shows (run : Pipeline) (name value : String) : Prop where
  held : run.environment.get? name = some value
  labelled : ∀ counter before p after,
    Label.segments run.labelTemplate.toList = before ++ .placeholder p :: after → p.AsksFor name →
      (run.withCounter counter).label = some (String.ofList
        (before.flatMap (run.labelValues counter).expandSegment ++ value.toList ++
          after.flatMap (run.labelValues counter).expandSegment))
  alone : ∀ counter, Label.CanAskFor name →
    run.labelTemplate = "$\x7benv:" ++ name ++ "\x7d" → (run.withCounter counter).label = some value

theorem Pipeline.shows_of_get? {run : Pipeline} {name value : String}
    (h : run.environment.get? name = some value) : run.Shows name value := by
  have hlabel : ∀ counter before p after,
      Label.segments run.labelTemplate.toList = before ++ .placeholder p :: after →
        p.AsksFor name → (run.withCounter counter).label = some (String.ofList
          (before.flatMap (run.labelValues counter).expandSegment ++ value.toList ++
            after.flatMap (run.labelValues counter).expandSegment)) := by
    intro counter before p after hs hp
    rw [withCounter, (run.labelValues counter).expand_of_segments hs hp h]
  refine ⟨h, hlabel, fun counter hname ht => ?_⟩
  obtain ⟨p, hp, hs⟩ := Label.segments_variable hname []
  have hnil : Label.segments [] = [] := by rw [Label.segments]
  have htemplate : run.labelTemplate.toList =
      '$' :: '\x7b' :: ("env:".toList ++ name.toList ++ ['\x7d']) := by
    rw [ht, String.toList_append, String.toList_append]
    rfl
  rw [hlabel counter [] p [] (by rw [htemplate, hs, hnil]; rfl) hp]
  simp

namespace Scheduling

variable {s : Scheduling} {pipeline : PipelineConfig} {cause : BuildCause} {configVersion : String}
  {now : Instant} {run : Pipeline}

/-- A run starts exactly if its cause carries the materials of the pipeline and the
first stage can be instantiated, over the variables of pipeline and cause. -/
theorem run_eq_ok : s.run pipeline cause configVersion now = .ok run ↔
    cause.checkPipeline pipeline = .ok () ∧ ∃ first stage, pipeline.firstStage? = some first ∧
      (s.inside pipeline (pipeline.environment.overriddenBy cause.environment)).instantiate first
        configVersion now = .ok stage ∧ run = pipeline.start cause stage := by
  unfold Scheduling.run
  simp only [Outcome.bind_eq_ok]
  refine ⟨fun ⟨_, hcheck, h⟩ => ⟨hcheck, ?_⟩, fun ⟨hcheck, first, stage, hf, hs, hr⟩ =>
    ⟨(), hcheck, ?_⟩⟩
  · cases hf : pipeline.firstStage? with
    | none =>
      rw [hf] at h
      cases h
    | some first =>
      rw [hf] at h
      obtain ⟨stage, hs, h⟩ := Outcome.bind_eq_ok.mp h
      cases h
      exact ⟨first, stage, rfl, hs, rfl⟩
  · rw [hf, hr]
    exact Outcome.bind_eq_ok.mpr ⟨stage, hs, rfl⟩

theorem environment_run (h : s.run pipeline cause configVersion now = .ok run) :
    run.environment = pipeline.environment.overriddenBy cause.environment := by
  obtain ⟨-, _, _, -, -, rfl⟩ := run_eq_ok.mp h
  rfl

/-- The variables of a job of the first stage are those of four layers; that of the
pipeline has the variables of the cause on top. -/
theorem hasLayers_run (h : s.run pipeline cause configVersion now = .ok run) :
    ∃ first stage, pipeline.firstStage? = some first ∧ run.stages = [stage] ∧
      ∀ j ∈ stage.jobs.members, (∃ job i, first.Makes job i j) ∧ ∀ job i, first.Makes job i j →
        j.plan.HasLayers s.environment run.environment first.environment job := by
  obtain ⟨-, first, stage, hf, hs, rfl⟩ := run_eq_ok.mp h
  refine ⟨first, stage, hf, rfl, fun j hj => ?_⟩
  obtain ⟨hmade, hall⟩ := environment_of_makes hs hj
  exact ⟨hmade, fun job i hm => hasLayers_variablesAt rfl (hall job i hm)⟩

/-- A run shows the last variable of a name that the cause has, or else the first one
of the pipeline. Its jobs see the last one of the cause only if the pipeline holds
the name once at most, and else the last one of the pipeline. So jobs and label agree,
with the cause over the pipeline, exactly if the name is there once at most, or the
last one of the pipeline has the value that the run shows. -/
theorem run_agrees_iff (h : s.run pipeline cause configVersion now = .ok run) :
    (∀ name, run.environment.first? name =
      (cause.environment.last? name).or (pipeline.environment.first? name)) ∧
    (∀ name value, run.environment.get? name = some value → run.Shows name value) ∧
    ∃ first stage, pipeline.firstStage? = some first ∧ run.stages = [stage] ∧
      ∀ j ∈ stage.jobs.members, (∃ job i, first.Makes job i j) ∧ ∀ job i, first.Makes job i j →
        ∀ name, (name ∈ pipeline.environment.names ∨ name ∈ cause.environment.names) →
          name ∉ first.environment.names → name ∉ job.environment.names → name ∉ job.runNames →
            j.plan.environment.first? name =
              (if (pipeline.environment.named name).length ≤ 1 then
                (cause.environment.last? name).or (pipeline.environment.last? name)
              else pipeline.environment.last? name) ∧
            ((j.plan.environment.get? name =
                ((cause.environment.last? name).or (pipeline.environment.last? name)).map
                  (·.value) ∧
              run.environment.get? name = j.plan.environment.get? name) ↔
                ((pipeline.environment.named name).length ≤ 1 ∨
                  (pipeline.environment.last? name).map (·.value) =
                    run.environment.get? name)) := by
  obtain ⟨first, stage, hf, hstages, hall⟩ := hasLayers_run h
  have henv := environment_run h
  have hshown : ∀ name, run.environment.first? name =
      (cause.environment.last? name).or (pipeline.environment.first? name) := by
    rw [henv]
    exact Variables.first?_overriddenBy pipeline.environment cause.environment
  refine ⟨hshown, fun name value hv => Pipeline.shows_of_get? hv, first, stage, hf, hstages,
    fun j hj => ⟨(hall j hj).1, fun job i hm name hheld hnostage hnojob hnorun => ?_⟩⟩
  have hlayers := (hall j hj).2 job i hm
  have hseen : j.plan.environment.first? name =
      if (pipeline.environment.named name).length ≤ 1 then
        (cause.environment.last? name).or (pipeline.environment.last? name)
      else pipeline.environment.last? name := by
    obtain ⟨v, hv⟩ := Variables.exists_last?_overriddenBy hheld
    rw [hlayers.found name hnorun, Variables.layered?, Variables.last?_eq_none_iff.mpr hnojob,
      Variables.last?_eq_none_iff.mpr hnostage, Option.none_or, Option.none_or, henv,
      ← Variables.last?_overriddenBy, hv]
    rfl
  refine ⟨hseen, ?_⟩
  rw [Variables.get?_eq_first?, Variables.get?_eq_first?, hseen, hshown name]
  by_cases honce : (pipeline.environment.named name).length ≤ 1
  · simp only [honce, ↓reduceIte, true_or, iff_true, true_and]
    rw [Variables.first?_eq_last? honce]
  · simp only [honce, ↓reduceIte, false_or]
    refine ⟨fun ⟨_, he⟩ => he.symm, fun he => ⟨?_, he.symm⟩⟩
    cases hc : cause.environment.last? name with
    | none => rfl
    | some v =>
      rw [hc] at he
      exact he

/-- A pipeline of one job, with these variables, whose label is the variable `X`. -/
def labelledByX (entries : List Variable) : PipelineConfig where
  name := "p"
  stages := [{ name := "s", jobs := [{ name := "j" }] }]
  environment := ⟨entries⟩
  labelTemplate := "$\x7benv:X\x7d"

/-- A cause that sets the variable. -/
def settingX : BuildCause where
  kind := .modification
  approver := "dev"
  environment := ⟨[⟨"X", "9", false⟩]⟩

/-- If the pipeline holds the variable once, the job and the label agree. -/
theorem run_agrees_iff_heldOnce : ∃ run stage, ∃ j ∈ stage.jobs.members,
    Scheduling.run {} (labelledByX [⟨"X", "1", false⟩]) settingX "v" ⟨0, 0⟩ = .ok run ∧
      run.stages = [stage] ∧ j.plan.environment.get? "X" = some "9" ∧
        run.environment.get? "X" = some "9" ∧ (run.withCounter 1).label = some "9" := by
  have hruns : (Scheduling.run {} (labelledByX [⟨"X", "1", false⟩]) settingX "v" ⟨0, 0⟩).map
      (fun run => decide (run.environment.get? "X" = some "9" ∧
        ∀ stage ∈ run.stages, stage.jobs.members ≠ [])) = .ok true := by
    decide +kernel
  obtain ⟨run, hrun, hnine⟩ := Outcome.map_eq_ok.mp hruns
  obtain ⟨hnine, hjobs⟩ := of_decide_eq_true hnine
  obtain ⟨-, hlabel, first, stage, hf, hstage, hall⟩ := run_agrees_iff hrun
  obtain ⟨j, hj⟩ := List.exists_mem_of_ne_nil _ (hjobs stage (hstage ▸ List.mem_singleton_self _))
  obtain ⟨⟨job, i, hm⟩, hlayers⟩ := hall j hj
  cases hf
  obtain rfl : job = { name := "j" } := List.mem_singleton.mp hm.1
  obtain ⟨-, hagree⟩ :=
    hlayers _ i hm "X" (.inl (by decide)) (by decide) (by decide) (by decide)
  obtain ⟨-, hsame⟩ := hagree.mpr (.inl (by decide))
  have hname : Label.CanAskFor "X" := by
    refine ⟨List.all_eq_true.mp (by decide), fun c hc => ?_⟩
    cases hc
    decide
  have htemplate : run.labelTemplate = "$\x7benv:" ++ "X" ++ "\x7d" := by
    have hjoin : "$\x7benv:X\x7d" = "$\x7benv:" ++ "X" ++ "\x7d" := by decide
    obtain ⟨-, _, _, -, -, rfl⟩ := run_eq_ok.mp hrun
    exact hjoin
  exact ⟨run, stage, j, hj, hrun, hstage, hsame ▸ hnine, hnine,
    (hlabel "X" "9" hnine).alone 1 hname htemplate⟩

/-- If a pipeline was read that holds the variable twice, the cause sets only the first
one. The job sees the second one, which the label does not show. -/
theorem run_disagrees_heldTwice :
    (Scheduling.run {} (labelledByX [⟨"X", "1", false⟩, ⟨"X", "2", false⟩]) settingX "v"
        ⟨0, 0⟩).map (fun run =>
      (run.stages.map fun stage => stage.jobs.members.map fun j => j.plan.environment.get? "X",
        run.environment.get? "X", (run.withCounter 1).label)) =
      .ok ([[some "2"]], some "9", some "9") ∧
    (settingX.environment.last? "X").map (·.value) = some "9" := by
  decide +kernel

end Scheduling
end StageRuns
