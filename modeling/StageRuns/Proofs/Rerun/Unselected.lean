/-
# The configuration of jobs that are not selected

A rerun looks up the jobs of the selected instances and the variables of the stage.
Everything else in the configuration of the stage may change, and jobs that are not
selected may be gone: the rerun fails as before, or it makes the same stage
(`Scheduling.rerun_alike`). Only one trace of the other jobs is left: a copy of an
instance for an agent is bound to that agent or not, depending on whether its job
runs on all agents now.

Key definitions: `StageConfig.AgreesFor`, `Stage.BoundOrNot`, `Stage.Alike`.
Key theorems: `Scheduling.replacements_congr`, `StageConfig.keep_alike`,
`Jobs.ofList_eq_error_of_forall₂`, `Scheduling.rerun_alike`.
-/
import StageRuns.Proofs.Rerun.Refusal

namespace StageRuns

/-- The configurations have the same variables, and the same job for each instance
that the request selects. -/
structure StageConfig.AgreesFor (config other : StageConfig) (old : Stage)
    (request : List String) : Prop where
  environment : config.environment = other.environment
  job? : ∀ j ∈ old.jobs.members, old.Selects request j →
    config.job? j.baseName = other.job? j.baseName

/-- Both are copies of an old instance for an agent that is not selected, one of them
bound to the agent and the other one not. -/
def Stage.BoundOrNot (old : Stage) (request : List String) (a b : JobInstance) : Prop :=
  ∃ k ∈ old.jobs.members, ¬ old.Selects request k ∧ k.runType = .runOnAllAgents ∧
    (a = k.copyForRerun ∧ b = k.copyForRerun.clearAgent ∨
      a = k.copyForRerun.clearAgent ∧ b = k.copyForRerun)

/-- Both reruns fail, and for the same reason, or they make stages that are the same
but for the agents of copies that are not selected. -/
inductive Stage.Alike (old : Stage) (request : List String) :
    Except Failure Stage → Except Failure Stage → Prop
  | failed (failure : Failure) : Alike old request (.error failure) (.error failure)
  | made {new new' : Stage} : new' = new.withJobs new'.jobs.members →
      List.Forall₂ (fun a b => a = b ∨ old.BoundOrNot request a b)
        new.jobs.members new'.jobs.members →
      Alike old request (.ok new) (.ok new')

variable {old : Stage} {request : List String} {config other : StageConfig} {s : Scheduling}
  {now : Instant}

/-! ### What is made anew -/

/-- A group is replaced from the job that is configured for its first instance. -/
theorem RerunGroup.replacement_congr {g : RerunGroup} (h : config.job? g.base = other.job? g.base) :
    g.replacement old config s now = g.replacement old other s now := by
  simp only [replacement, h]

/-- The same instances are made anew, or it fails for the same reason. -/
theorem Scheduling.replacements_congr (h : config.AgreesFor other old request) :
    s.replacements old request config now = s.replacements old request other now := by
  have hforRerun : s.forRerun config = s.forRerun other := by
    rw [forRerun, forRerun, h.environment]
  have hgroup : ∀ g ∈ old.groups request, g.replacement old config (s.forRerun config) now =
      g.replacement old other (s.forRerun other) now := by
    intro g hg
    rw [hforRerun]
    exact RerunGroup.replacement_congr
      (h.job? g.first (Stage.first_mem_of_mem_groups hg) (Stage.selects_first hg))
  exact Outcome.mapM_congr hgroup

/-! ### What is kept -/

/-- What is kept of an instance is its copy, which is not bound to an agent only if the
instance was one for an agent. -/
theorem StageConfig.keep_eq (config : StageConfig) (job : JobInstance) :
    config.keep job = job.copyForRerun ∨
      job.runType = .runOnAllAgents ∧ config.keep job = job.copyForRerun.clearAgent := by
  unfold keep
  cases config.job? job.baseName with
  | none => exact .inl rfl
  | some current =>
    by_cases h : (job.isRunOnAllAgents && current.runType != .runOnAllAgents) = true
    · have hall : job.runType = .runOnAllAgents := by
        simp [JobInstance.isRunOnAllAgents] at h
        exact h.1
      exact .inr ⟨hall, by simp [h]⟩
    · exact .inl (by simp [h])

/-- Whatever is configured, what is kept of an instance that is not selected is the
same but for its agent. -/
theorem StageConfig.keep_alike {k : JobInstance} (hk : k ∈ old.jobs.members)
    (hs : ¬ old.Selects request k) (config other : StageConfig) :
    config.keep k = other.keep k ∨ old.BoundOrNot request (config.keep k) (other.keep k) := by
  rcases config.keep_eq k with hc | ⟨hr, hc⟩
  · rcases other.keep_eq k with ho | ⟨hr, ho⟩
    · exact .inl (hc.trans ho.symm)
    · exact .inr ⟨k, hk, hs, hr, .inl ⟨hc, ho⟩⟩
  · rcases other.keep_eq k with ho | ⟨-, ho⟩
    · exact .inr ⟨k, hk, hs, hr, .inr ⟨hc, ho⟩⟩
    · exact .inl (hc.trans ho.symm)

/-! ### What is added -/

/-- Whether instances can be the jobs of a stage is a matter of their names. -/
theorem NamesDiffer.of_forall₂ {js ks : List JobInstance}
    (h : List.Forall₂ (fun a b => b.name = a.name) js ks) (hd : NamesDiffer js) :
    NamesDiffer ks := by
  refine Lists.pairwise_of_forall₂ h (fun a b c d hac hbd hab => ?_) hd
  rw [JobInstance.NameDiffers, hac, hbd]
  exact hab

/-- Which of them is refused is a matter of their names, too. -/
theorem Jobs.ofList_eq_error_of_forall₂ {js ks : List JobInstance} {failure : Failure}
    (h : List.Forall₂ (fun a b => b.name = a.name) js ks) (he : ofList js = .error failure) :
    ofList ks = .error failure := by
  obtain ⟨j, ⟨before, after, rfl, hd, k, hk, hs⟩, rfl⟩ := ofList_eq_error.mp he
  -- the instance in the place of the one that is refused has its name
  obtain ⟨us, vs, rfl, hus, hvs⟩ := Lists.forall₂_append_left h
  obtain ⟨j', vs, hj, -, rfl⟩ := List.forall₂_cons_left_iff.mp hvs
  obtain ⟨k', hk', hkk⟩ := Lists.exists_right hus hk
  have htaken : FirstNameTaken (us ++ j' :: vs) j' := by
    refine ⟨us, vs, rfl, hd.of_forall₂ hus, k', hk', ?_⟩
    rw [hkk, hj]
    exact hs
  exact ofList_eq_error.mpr ⟨j', htaken, by rw [hj]⟩

/-! ### The outcome -/

theorem Stage.BoundOrNot.name_eq {a b : JobInstance} (h : old.BoundOrNot request a b) :
    b.name = a.name := by
  obtain ⟨k, -, -, -, ⟨rfl, rfl⟩ | ⟨rfl, rfl⟩⟩ := h
  · rfl
  · rfl

/-- Place by place, the instances of both stages are the same or differ in their
agents. -/
theorem Stage.merged_alike (old : Stage) (request : List String) (config other : StageConfig)
    (rs : List Replacement) :
    List.Forall₂ (fun a b => a = b ∨ old.BoundOrNot request a b)
      (old.merged request config rs) (old.merged request other rs) := by
  refine forall₂_mergeReplacements (fun _ => .inl rfl) [] (fun _ _ => rfl) fun k hk hs => ?_
  exact StageConfig.keep_alike hk ((Stage.selects_eq_false_iff hk).mp hs) config other

/-- Configurations that agree on the variables and on the jobs of the selected instances
make the same stage, but for the agents of copies that are not selected, or fail in the
same way. -/
theorem Scheduling.rerun_alike (s : Scheduling) (configVersion : String) (now : Instant)
    (h : config.AgreesFor other old request) :
    old.Alike request (s.rerun old request config configVersion now)
      (s.rerun old request other configVersion now) := by
  have hreplaced : s.replacements old request config now = s.replacements old request other now :=
    replacements_congr h
  have hgroups : ∀ {rs}, ReplacedGroups old request config s now rs →
      ReplacedGroups old request other s now rs := fun hrs => by
    rw [← replacements_eq_ok, ← hreplaced]
    exact replacements_eq_ok.mpr hrs
  have hnames : ∀ rs, List.Forall₂ (fun a b => b.name = a.name)
      (old.merged request config rs) (old.merged request other rs) := fun rs =>
    (old.merged_alike request config other rs).imp fun a b hab =>
      hab.elim (fun he => by rw [he]) Stage.BoundOrNot.name_eq
  cases hout : s.rerun old request config configVersion now with
  | ok new =>
    obtain ⟨hc, ha, rs, hrs, hd, rfl⟩ := rerun_eq_ok.mp hout
    have hother : s.rerun old request other configVersion now =
        .ok (s.successor old configVersion now (old.merged request other rs)) :=
      rerun_eq_ok.mpr ⟨hc, ha, rs, hgroups hrs, hd.of_forall₂ (hnames rs), rfl⟩
    rw [hother]
    exact .made rfl (old.merged_alike request config other rs)
  | error failure =>
    have hother : s.rerun old request other configVersion now = .error failure := by
      rw [rerun_eq_error]
      rcases rerun_eq_error.mp hout with hrunning | ⟨hc, hrequest | ⟨ha, hgroup | hjobs⟩⟩
      · exact .inl hrunning
      · exact .inr ⟨hc, .inl hrequest⟩
      · exact .inr ⟨hc, .inr ⟨ha, .inl (hreplaced ▸ hgroup)⟩⟩
      · obtain ⟨rs, hrs, hjobs⟩ := hjobs
        have hrefused := Jobs.ofList_eq_error_of_forall₂ (hnames rs) hjobs
        exact .inr ⟨hc, .inr ⟨ha, .inr ⟨rs, hgroups hrs, hrefused⟩⟩⟩
    rw [hother]
    exact .failed failure

/-- Job `b` is configured as it was, everything else is not. -/
def onlyBUnchanged : StageConfig where
  name := "renamed"
  jobs := [{ name := "b" }, { name := "c", runInstanceCount := some 2 }, { name := "A" }]
  approval := .manual
  fetchMaterials := false
  cleanWorkingDir := true

/-- Job `b` is run again. That the other configuration has job `a` run once shows only in
the agents of the copies of its two instances. -/
theorem Scheduling.rerun_alike_passedOnTwoAgents :
    agentsAndOnce.AgreesFor onlyBUnchanged passedOnTwoAgents ["B"] ∧
    ∃ new new', twoAgents.rerun passedOnTwoAgents ["B"] agentsAndOnce "2" ⟨2, 0⟩ = .ok new ∧
      twoAgents.rerun passedOnTwoAgents ["B"] onlyBUnchanged "2" ⟨2, 0⟩ = .ok new' ∧
      passedOnTwoAgents.Alike ["B"] (.ok new) (.ok new') ∧
      (new.jobs.members.map (·.agent)) = [some ⟨"u1"⟩, some ⟨"u2"⟩, none] ∧
      (new'.jobs.members.map (·.agent)) = [none, none, none] := by
  have hagrees : agentsAndOnce.AgreesFor onlyBUnchanged passedOnTwoAgents ["B"] :=
    ⟨rfl, by decide +kernel⟩
  obtain ⟨new, hnew⟩ : ∃ new,
      twoAgents.rerun passedOnTwoAgents ["B"] agentsAndOnce "2" ⟨2, 0⟩ = .ok new :=
    Outcome.exists_of_isOk (by decide +kernel)
  obtain ⟨new', hnew'⟩ : ∃ new,
      twoAgents.rerun passedOnTwoAgents ["B"] onlyBUnchanged "2" ⟨2, 0⟩ = .ok new :=
    Outcome.exists_of_isOk (by decide +kernel)
  have halike := twoAgents.rerun_alike "2" ⟨2, 0⟩ hagrees
  rw [hnew, hnew'] at halike
  have hagents : (twoAgents.rerun passedOnTwoAgents ["B"] agentsAndOnce "2" ⟨2, 0⟩).map
      (fun new => new.jobs.members.map (·.agent)) =
        .ok [some ⟨"u1"⟩, some ⟨"u2"⟩, none] := by
    decide +kernel
  have hagents' : (twoAgents.rerun passedOnTwoAgents ["B"] onlyBUnchanged "2" ⟨2, 0⟩).map
      (fun new => new.jobs.members.map (·.agent)) = .ok [none, none, none] := by
    decide +kernel
  rw [hnew] at hagents
  rw [hnew'] at hagents'
  exact ⟨hagrees, new, new', hnew, hnew', halike, Except.ok.inj hagents, Except.ok.inj hagents'⟩

end StageRuns
