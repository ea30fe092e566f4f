/-
# How a rerun can end

A rerun makes an instance anew, so the new stage goes on and has no result. All its
jobs that go on can be completed, and these are the ones that were made anew; copies
have ended and stay as they are. The stage then has the worst of two things: the result
that its jobs were given, and what the copies carry from the old stage
(`Scheduling.rerun_ends`). So a rerun passes if its jobs pass and all others had passed.

Key definitions: `JobResult.severity`, `JobResult.worst`, `StageResult.ofJob`,
`Stage.completeEach`, `Stage.resultsLeft`.
Key theorems: `JobResult.worst_mem`, `JobResult.severity_le_worst`,
`Stage.result_eq_ofJob`, `Stage.completeEach_eq_ok`, `ReplacedGroups.isActive_merged`,
`Scheduling.rerun_ends`.
-/
import StageRuns.Proofs.Rerun.Copies

namespace StageRuns

/-! ### The worst of some results -/

namespace JobResult

/-- How bad a result is. That it is unknown is worse than to have passed. -/
def severity : JobResult → Nat
  | passed => 0
  | unknown => 1
  | failed => 2
  | cancelled => 3

/-- The worse of two results. -/
def worse (a b : JobResult) : JobResult := if a.severity < b.severity then b else a

/-- The worst of a result and others. -/
def worst (result : JobResult) (others : List JobResult) : JobResult := others.foldl worse result

theorem worse_eq (a b : JobResult) : worse a b = a ∨ worse a b = b := by
  unfold worse
  split
  · exact .inr rfl
  · exact .inl rfl

theorem le_worse (a b : JobResult) :
    a.severity ≤ (worse a b).severity ∧ b.severity ≤ (worse a b).severity := by
  unfold worse
  split <;> omega

/-- The worst result is one of them. -/
theorem worst_mem (result : JobResult) (others : List JobResult) :
    worst result others ∈ result :: others := by
  induction others generalizing result with
  | nil => exact List.mem_singleton_self result
  | cons r rs ih =>
    have hcons : worst result (r :: rs) = worst (worse result r) rs := rfl
    rw [hcons]
    rcases List.mem_cons.mp (ih (worse result r)) with h | h
    · rw [h]
      rcases worse_eq result r with h | h <;> simp [h]
    · exact List.mem_cons_of_mem _ (List.mem_cons_of_mem _ h)

/-- None of them is worse than the worst one. -/
theorem severity_le_worst (result : JobResult) (others : List JobResult) :
    ∀ r ∈ result :: others, r.severity ≤ (worst result others).severity := by
  induction others generalizing result with
  | nil => simp [worst]
  | cons r rs ih =>
    have hfirst := ih (worse result r) (worse result r) List.mem_cons_self
    have hle := le_worse result r
    intro x hx
    show x.severity ≤ (worst (worse result r) rs).severity
    rcases List.mem_cons.mp hx with rfl | hx
    · omega
    · rcases List.mem_cons.mp hx with rfl | hx
      · omega
      · exact ih (worse result r) x (List.mem_cons_of_mem _ hx)

theorem eq_of_severity_eq {a b : JobResult} (h : a.severity = b.severity) : a = b := by
  cases a <;> cases b <;> first | rfl | cases h

/-- Nothing is worse than to have passed if all have passed. -/
theorem worst_passed_iff {others : List JobResult} :
    worst .passed others = .passed ↔ ∀ r ∈ others, r = .passed := by
  constructor
  · intro h r hr
    have hle := severity_le_worst .passed others r (List.mem_cons_of_mem _ hr)
    rw [h] at hle
    exact eq_of_severity_eq (Nat.le_zero.mp hle)
  · intro h
    rcases List.mem_cons.mp (worst_mem .passed others) with hw | hw
    · exact hw
    · exact h _ hw

end JobResult

/-- The result of a stage in which a job's result is the worst. -/
def StageResult.ofJob : JobResult → StageResult
  | .unknown => unknown
  | .passed => passed
  | .failed => failed
  | .cancelled => cancelled

theorem StageResult.ofJob_eq_passed_iff {r : JobResult} : ofJob r = passed ↔ r = .passed := by
  cases r <;> decide

namespace Stage

/-- A stage whose jobs have ended has the worst of their results. -/
theorem result_eq_ofJob {stage : Stage} {r : JobResult} (hc : stage.isCompleted = true)
    (hr : r ∈ stage.jobs.results) (hle : ∀ x ∈ stage.jobs.results, x.severity ≤ r.severity) :
    stage.result = .ofJob r := by
  have hno : ∀ x : JobResult, r.severity < x.severity → x ∉ stage.jobs.results := by
    intro x hx hmem
    have := hle x hmem
    omega
  cases r with
  | cancelled => simp [result, hc, hr, StageResult.ofJob]
  | failed =>
    have hcancelled := hno .cancelled (by decide)
    simp [result, hc, hcancelled, hr, StageResult.ofJob]
  | unknown =>
    have hcancelled := hno .cancelled (by decide)
    have hfailed := hno .failed (by decide)
    have hnotAll : ¬ ∀ x ∈ stage.jobs.results, x = .passed := fun h => nomatch h _ hr
    simp [result, hc, hcancelled, hfailed, hnotAll, StageResult.ofJob]
  | passed =>
    have hcancelled := hno .cancelled (by decide)
    have hfailed := hno .failed (by decide)
    have hall : ∀ x ∈ stage.jobs.results, x = .passed := fun x hx =>
      JobResult.eq_of_severity_eq (Nat.le_zero.mp (hle x hx))
    simp [result, hc, hcancelled, hfailed, StageResult.ofJob]
    exact hall

/-! ### Completing a stage -/

/-- The stage with each job that goes on completed, or the failure to complete one. -/
def completeEach (stage : Stage) (result : JobResult) (time : Instant) : Except Failure Stage :=
  let step (job : JobInstance) : Except Failure JobInstance :=
    if job.isActive then job.complete result time else .ok job
  (stage.jobs.members.mapM step).map stage.withJobs

variable {job : JobInstance} {result : JobResult} {time : Instant}

theorem complete_eq_completeIfActive (h : job.isActive = true) :
    job.complete result time = .ok (completeIfActive result time job) := by
  have hdone : job.complete result time = .ok _ :=
    JobInstance.complete_eq_ok.mpr ⟨JobInstance.canMoveTo_completed h, rfl⟩
  rw [completeIfActive, if_pos h, hdone]

theorem completeIfActive_of_ended (h : job.isActive = false) :
    completeIfActive result time job = job := by
  simp [completeIfActive, h]

theorem result_completeIfActive (h : job.isActive = true) :
    (completeIfActive result time job).result = result := by
  obtain ⟨-, hdone⟩ := JobInstance.complete_eq_ok.mp (complete_eq_completeIfActive h)
  rw [hdone]

/-- No job that goes on refuses to be completed. -/
theorem completeEach_eq_ok (stage : Stage) (result : JobResult) (time : Instant) :
    stage.completeEach result time = .ok (stage.completeAll result time) := by
  refine Outcome.map_eq_ok.mpr ⟨_, Outcome.mapM_eq_ok.mpr ?_, rfl⟩
  rw [List.forall₂_map_right_iff, List.forall₂_same]
  intro job _
  by_cases h : job.isActive = true
  · rw [if_pos h, complete_eq_completeIfActive h]
  · rw [if_neg h, completeIfActive_of_ended (Bool.eq_false_iff.mpr h)]

/-- The results that the instances that are not selected carry. -/
def resultsLeft (old : Stage) (request : List String) : List JobResult :=
  (old.jobs.members.filter fun j => ¬ old.Selects request j).map (·.result)

end Stage

/-! ### The rerun -/

variable {old new : Stage} {request : List String} {config : StageConfig} {s : Scheduling}
  {configVersion : String} {now : Instant} {rs : List Replacement}

namespace ReplacedGroups

/-- Of the instances of the new stage, just the copies have ended. -/
theorem isActive_merged (h : ReplacedGroups old request config s now rs)
    (hc : old.isCompleted = true) {j : JobInstance} (hj : j ∈ old.merged request config rs) :
    j.isActive = !j.isCopy := by
  rcases mem_mergeReplacements hj with ⟨k, hk, -, rfl⟩ | ⟨r, hr, hj⟩
  · have hended : k.isActive = false := by simpa using List.all_eq_true.mp hc k hk
    rw [config.isCopy_keep, JobInstance.isActive, (config.isCopyOf_keep k).state]
    exact hended
  · obtain ⟨g, -, hg⟩ := h.exists_group hr
    rw [h.isCopy_eq_false hr hj, JobInstance.isActive, (hg.scheduledAt hj).state]
    rfl

theorem isActive_of_isCopy (h : ReplacedGroups old request config s now rs)
    (hc : old.isCompleted = true) {j : JobInstance} (hj : j ∈ old.merged request config rs)
    (hcopy : j.isCopy = true) : j.isActive = false := by
  rw [h.isActive_merged hc hj, hcopy, Bool.not_true]

theorem isActive_of_madeAnew (h : ReplacedGroups old request config s now rs)
    (hc : old.isCompleted = true) {j : JobInstance} (hj : j ∈ old.merged request config rs)
    (hcopy : j.isCopy = false) : j.isActive = true := by
  rw [h.isActive_merged hc hj, hcopy, Bool.not_false]

/-- An accepted request has an instance made anew. -/
theorem exists_madeAnew (h : ReplacedGroups old request config s now rs)
    (ha : old.Accepts request) : ∃ j ∈ old.merged request config rs, j.isCopy = false := by
  obtain ⟨hne, hnames⟩ := ha
  obtain ⟨name, hname⟩ := List.exists_mem_of_ne_nil _ hne
  obtain ⟨k, hk, hnamed⟩ := hnames name hname
  obtain ⟨g, hg, -⟩ := Stage.exists_group_of_selects hk ⟨name, hname, hnamed⟩
  obtain ⟨r, hr, job, fresh, -, hf, rfl⟩ := h.exists_replacement hg
  obtain ⟨j, hj⟩ := List.exists_mem_of_ne_nil _ hf.ne_nil
  have hmem : j.markAsRerun ∈ fresh.map JobInstance.markAsRerun := List.mem_map_of_mem hj
  exact ⟨_, h.mem_merged hr hmem, h.isCopy_eq_false hr hmem⟩

/-- The copies carry the results of the instances that are not selected. -/
theorem results_copies (h : ReplacedGroups old request config s now rs) :
    ((old.merged request config rs).filter (·.isCopy)).map (·.result) =
      old.resultsLeft request := by
  rw [h.filter_isCopy_merged, Stage.copies, Stage.filter_not_selects, List.map_map]
  exact List.map_congr_left fun j _ => (config.isCopyOf_keep j).result

/-- Once the jobs of the new stage are completed, the results are the one that was given
and those that the copies carry. -/
theorem mem_results_iff (h : ReplacedGroups old request config s now rs)
    (hc : old.isCompleted = true) (ha : old.Accepts request)
    (hnew : new.jobs.members = old.merged request config rs) {result r : JobResult}
    {time : Instant} : r ∈ (new.completeAll result time).jobs.results ↔
      r ∈ result :: old.resultsLeft request := by
  have hresults : (new.completeAll result time).jobs.results =
      (old.merged request config rs).map fun j =>
        (Stage.completeIfActive result time j).result := by
    rw [← hnew, Jobs.results, Stage.completeAll, Stage.withJobs, List.map_map]
    rfl
  rw [hresults, List.mem_map, List.mem_cons, ← h.results_copies, List.mem_map]
  constructor
  · rintro ⟨j, hj, rfl⟩
    cases hcopy : j.isCopy with
    | true =>
      rw [Stage.completeIfActive_of_ended (h.isActive_of_isCopy hc hj hcopy)]
      exact .inr ⟨j, List.mem_filter.mpr ⟨hj, hcopy⟩, rfl⟩
    | false => exact .inl (Stage.result_completeIfActive (h.isActive_of_madeAnew hc hj hcopy))
  · rintro (rfl | ⟨j, hj, rfl⟩)
    · obtain ⟨j, hj, hcopy⟩ := h.exists_madeAnew ha
      exact ⟨j, hj, Stage.result_completeIfActive (h.isActive_of_madeAnew hc hj hcopy)⟩
    · obtain ⟨hj, hcopy⟩ := List.mem_filter.mp hj
      refine ⟨j, hj, ?_⟩
      rw [Stage.completeIfActive_of_ended (h.isActive_of_isCopy hc hj hcopy)]

end ReplacedGroups

/-- A new stage goes on. All its jobs that go on can be completed, with any result, and
then the stage has ended: its copies are as they were, and its result is the worst of the
one that was given and those that the instances that were not selected have. So the
stage passes if its new jobs pass and all others had passed, and only then. -/
theorem Scheduling.rerun_ends (h : s.rerun old request config configVersion now = .ok new) :
    new.isCompleted = false ∧ new.result = .unknown ∧
    (∀ (result : JobResult) (time : Instant),
      new.completeEach result time = .ok (new.completeAll result time) ∧
      (new.completeAll result time).isCompleted = true ∧
      List.Forall₂ (fun job done => (job.isCopy = true → done = job) ∧
          (job.isCopy = false → job.complete result time = .ok done))
        new.jobs.members (new.completeAll result time).jobs.members ∧
      (new.completeAll result time).result =
        .ofJob (.worst result (old.resultsLeft request))) ∧
    ∀ time, (new.completeAll .passed time).result = .passed ↔
      ∀ j ∈ old.jobs.members, ¬ old.Selects request j → j.result = .passed := by
  obtain ⟨hc, ha, rs, hrs, -, rfl⟩ := rerun_eq_ok.mp h
  set new := s.successor old configVersion now (old.merged request config rs)
  have hnew : new.jobs.members = old.merged request config rs := rfl
  have hgoesOn : new.isCompleted = false := by
    obtain ⟨j, hj, hcopy⟩ := hrs.exists_madeAnew ha
    have hactive := hrs.isActive_of_madeAnew hc hj hcopy
    rw [Stage.isCompleted, Jobs.areEnded, List.all_eq_false]
    exact ⟨j, hj, by simp [hactive]⟩
  have hended : ∀ result time, (new.completeAll result time).isCompleted = true :=
    fun result time => (new.completeAll_endsAs result time).isCompleted
  have hresult : ∀ result time, (new.completeAll result time).result =
      .ofJob (.worst result (old.resultsLeft request)) := fun result time =>
    Stage.result_eq_ofJob (hended result time)
      ((hrs.mem_results_iff hc ha hnew).mpr (JobResult.worst_mem _ _))
      fun r hr => JobResult.severity_le_worst _ _ r ((hrs.mem_results_iff hc ha hnew).mp hr)
  refine ⟨hgoesOn, by simp [Stage.result, hgoesOn], fun result time =>
    ⟨new.completeEach_eq_ok result time, hended result time, ?_, hresult result time⟩,
    fun time => ?_⟩
  · show List.Forall₂ _ new.jobs.members (new.jobs.members.map _)
    rw [List.forall₂_map_right_iff, List.forall₂_same]
    exact fun j hj => ⟨fun hcopy =>
      Stage.completeIfActive_of_ended (hrs.isActive_of_isCopy hc hj hcopy), fun hcopy =>
        Stage.complete_eq_completeIfActive (hrs.isActive_of_madeAnew hc hj hcopy)⟩
  · rw [hresult, StageResult.ofJob_eq_passed_iff, JobResult.worst_passed_iff, Stage.resultsLeft,
      List.forall_mem_map]
    simp [and_imp]

/-- All jobs failed and one of them is run again. The copies keep the new stage from
passing, whatever that job does, and it is cancelled if that job is. -/
theorem Scheduling.rerun_ends_failedOnTwoAgents : ∃ new,
    twoAgents.rerun (onTwoAgents.completeAll .failed ⟨1, 0⟩) ["B"] agentsAndOnce "2" ⟨2, 0⟩ =
      .ok new ∧ new.isCompleted = false ∧
    ∀ time, (new.completeAll .passed time).result = .failed ∧
      (new.completeAll .cancelled time).result = .cancelled := by
  obtain ⟨new, hnew⟩ : ∃ new, twoAgents.rerun (onTwoAgents.completeAll .failed ⟨1, 0⟩) ["B"]
      agentsAndOnce "2" ⟨2, 0⟩ = .ok new :=
    Outcome.exists_of_isOk (by decide +kernel)
  have hleft : (onTwoAgents.completeAll .failed ⟨1, 0⟩).resultsLeft ["B"] = [.failed, .failed] := by
    decide +kernel
  obtain ⟨hgoesOn, -, hends, -⟩ := rerun_ends hnew
  have hresult : ∀ result time, (new.completeAll result time).result =
      .ofJob (.worst result [.failed, .failed]) := fun result time =>
    hleft ▸ (hends result time).2.2.2
  exact ⟨new, hnew, hgoesOn, fun time => ⟨hresult .passed time, hresult .cancelled time⟩⟩

end StageRuns
