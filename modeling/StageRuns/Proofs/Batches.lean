/-
# Jobs added in a batch

A batch is added job by job, up to the first job whose name is taken, by one of the jobs or by
an earlier one of the batch. The jobs before it stay (`Jobs.append_of_stopsAt`). So a batch that
is refused leaves the jobs as they were exactly if its first job is the one that is refused
(`Jobs.allOrNothing_iff`). A job that is added alone leaves no trace when it is refused, and
neither does an agent.

Key definitions: `Jobs.Admits`, `Jobs.StopsAt`, `Jobs.AllOrNothing`.
Key theorems: `Jobs.append_of_admits`, `Jobs.exists_stopsAt`, `Jobs.append_of_stopsAt`,
`Jobs.allOrNothing_iff`.
-/
import StageRuns.Proofs.CheckedCollections

namespace StageRuns
namespace Jobs

variable {jobs next : Jobs} {before after batch : List JobInstance} {job : JobInstance}

/-- The names in the batch are free, and no two of them are the same. -/
def Admits (jobs : Jobs) (batch : List JobInstance) : Prop :=
  (∀ a ∈ jobs.members, ∀ b ∈ batch, a.NameDiffers b) ∧ NamesDiffer batch

/-- Of the batch, the jobs before this one are admitted, and its name is taken then. -/
structure StopsAt (jobs : Jobs) (before : List JobInstance) (job : JobInstance) : Prop where
  admits : jobs.Admits before
  taken : ∃ a ∈ jobs.members ++ before, Text.sameName a.name job.name = true

/-- If the batch is refused, the jobs are as they were; otherwise the batch stands behind
them. -/
def AllOrNothing (jobs : Jobs) (batch : List JobInstance) : Prop :=
  (jobs.append batch).1 =
    if (jobs.append batch).2.isSome then jobs else ⟨jobs.members ++ batch⟩

instance (jobs : Jobs) (batch : List JobInstance) : Decidable (jobs.AllOrNothing batch) :=
  inferInstanceAs (Decidable (_ = _))

/-! ### Where adding stops -/

theorem append_of_admits (h : jobs.Admits batch) :
    jobs.append batch = (⟨jobs.members ++ batch⟩, none) := by
  have hall : jobs.appended batch = .ok ⟨jobs.members ++ batch⟩ := appended_eq_ok.mpr ⟨h, rfl⟩
  unfold appended at hall
  split at hall
  next all heq => rw [heq, Except.ok.inj hall]
  next => cases hall

/-- A batch in two parts is added part by part. -/
theorem append_append : ∀ {jobs : Jobs} {before : List JobInstance} (after : List JobInstance),
    jobs.append before = (next, none) → jobs.append (before ++ after) = next.append after
  | jobs, [], after, h => by
    cases h
    rfl
  | jobs, job :: before, after, h => by
    rw [append] at h
    rw [List.cons_append, append]
    cases hadd : jobs.add job with
    | ok all =>
      rw [hadd] at h
      exact append_append after h
    | error failure =>
      rw [hadd] at h
      cases h

theorem admits_concat_iff : jobs.Admits (before ++ [job]) ↔
    jobs.Admits before ∧ ∀ a ∈ jobs.members ++ before, a.NameDiffers job := by
  simp only [Admits, NamesDiffer, List.pairwise_append, List.mem_append, List.mem_singleton,
    List.pairwise_singleton, forall_eq, true_and]
  grind

theorem stopsAt_of_not_admits (h : jobs.Admits before) (hjob : ¬ jobs.Admits (before ++ [job])) :
    jobs.StopsAt before job := by
  refine ⟨h, ?_⟩
  by_contra hfree
  refine hjob (admits_concat_iff.mpr ⟨h, fun a ha => ?_⟩)
  by_contra htaken
  exact hfree ⟨a, ha, Bool.not_eq_false _ ▸ htaken⟩

/-- There is a first job at which adding a batch stops, unless the batch is admitted. -/
theorem exists_stopsAt (h : ¬ jobs.Admits batch) :
    ∃ before job after, batch = before ++ job :: after ∧ jobs.StopsAt before job := by
  induction batch using List.reverseRecOn with
  | nil => exact absurd ⟨fun _ _ _ hb => absurd hb List.not_mem_nil, .nil⟩ h
  | append_singleton batch job ih =>
    by_cases hbatch : jobs.Admits batch
    · exact ⟨batch, job, [], rfl, stopsAt_of_not_admits hbatch h⟩
    · obtain ⟨before, first, after, rfl, hstops⟩ := ih hbatch
      exact ⟨before, first, after ++ [job], by simp, hstops⟩

/-- What is added before adding stops, stays. -/
theorem append_of_stopsAt (h : jobs.StopsAt before job) (after : List JobInstance) :
    jobs.append (before ++ job :: after) =
      (⟨jobs.members ++ before⟩, some (.duplicateJob job.name)) := by
  have hadd : add ⟨jobs.members ++ before⟩ job = .error (.duplicateJob job.name) :=
    add_eq_error.mpr ⟨h.taken, rfl⟩
  rw [append_append _ (append_of_admits h.admits), append, hadd]

/-! ### All or nothing -/

/-- Where adding stops, the jobs are as they were exactly if nothing was added before. -/
theorem allOrNothing_of_stopsAt (h : jobs.StopsAt before job) (after : List JobInstance) :
    jobs.AllOrNothing (before ++ job :: after) ↔ before = [] := by
  unfold AllOrNothing
  rw [append_of_stopsAt h, Option.isSome_some, if_pos rfl]
  constructor
  · intro hsame
    have hmembers : jobs.members ++ before = jobs.members := congrArg members hsame
    simpa using hmembers
  · rintro rfl
    simp

theorem has_iff {name : String} :
    jobs.has name = true ↔ ∃ a ∈ jobs.members, Text.sameName a.name name = true := by
  simp [has, byName?]

/-- Adding a batch is all or nothing exactly if the batch is admitted, or its first job has a
name that one of the jobs has. -/
theorem allOrNothing_iff : jobs.AllOrNothing batch ↔
    jobs.Admits batch ∨ ∃ job ∈ batch.head?, jobs.has job.name = true := by
  by_cases h : jobs.Admits batch
  · have hall : jobs.AllOrNothing batch := by
      unfold AllOrNothing
      rw [append_of_admits h]
      rfl
    exact iff_of_true hall (.inl h)
  obtain ⟨before, job, after, rfl, hstops⟩ := exists_stopsAt h
  rw [allOrNothing_of_stopsAt hstops]
  constructor
  · rintro rfl
    refine .inr ⟨job, rfl, has_iff.mpr ?_⟩
    simpa using hstops.taken
  · rintro (hall | ⟨first, hfirst, htaken⟩)
    · exact absurd hall h
    -- a job that is added before has a free name
    cases before with
    | nil => rfl
    | cons b before =>
      cases hfirst
      obtain ⟨a, ha, hsame⟩ := has_iff.mp htaken
      have hfree := hstops.admits.1 a ha first List.mem_cons_self
      rw [JobInstance.NameDiffers, hsame] at hfree
      cases hfree

theorem allOrNothing_singleton (jobs : Jobs) (job : JobInstance) : jobs.AllOrNothing [job] := by
  rw [allOrNothing_iff]
  by_cases h : jobs.has job.name = true
  · exact .inr ⟨job, rfl, h⟩
  · refine .inl ⟨fun a ha b hb => ?_, List.pairwise_singleton ..⟩
    rw [List.mem_singleton.mp hb]
    exact has_eq_false.mp (Bool.not_eq_true _ ▸ h) a ha

/-- Adding one job is adding a batch of one. -/
theorem offered_eq (jobs : Jobs) (job : JobInstance) :
    jobs.offered job = (jobs.append [job]).1 := by
  rw [offered, append]
  cases jobs.add job <;> rfl

end Jobs

/-- A batch is added behind the jobs as a whole if all its names are free. Otherwise the jobs
before the first one whose name is taken stay, and that one is refused; so what was refused has
left the jobs as they were exactly if it is the first of the batch. One job, and one agent,
that is refused changes nothing. -/
theorem append_allOrNothing_iff (jobs : Jobs) (batch : List JobInstance) (job : JobInstance)
    (pool : Agents) (agent : Agent) :
    (jobs.AllOrNothing batch ↔
      jobs.Admits batch ∨ ∃ first ∈ batch.head?, jobs.has first.name = true) ∧
    ((∃ before refused after, batch = before ++ refused :: after ∧ jobs.StopsAt before refused ∧
        jobs.append batch = (⟨jobs.members ++ before⟩, some (.duplicateJob refused.name))) ∨
      (jobs.Admits batch ∧ jobs.append batch = (⟨jobs.members ++ batch⟩, none))) ∧
    jobs.AllOrNothing [job] ∧ jobs.offered job = (jobs.append [job]).1 ∧
    (∀ failure, jobs.add job = .error failure → jobs.offered job = jobs) ∧
    ∀ failure, pool.add agent = .error failure → pool.offered agent = pool := by
  refine ⟨Jobs.allOrNothing_iff, ?_, jobs.allOrNothing_singleton job, jobs.offered_eq job,
    fun failure h => ?_, fun failure h => ?_⟩
  · by_cases h : jobs.Admits batch
    · exact .inr ⟨h, Jobs.append_of_admits h⟩
    · obtain ⟨before, refused, after, rfl, hstops⟩ := Jobs.exists_stopsAt h
      exact .inl ⟨before, refused, after, rfl, hstops, Jobs.append_of_stopsAt hstops after⟩
  · rw [Jobs.offered, h]
  · rw [Agents.offered, h]

/-- A job behind a free name, in a batch whose names all differ. -/
def batchTaken : List JobInstance := [freshJob "test", freshJob "BUILD"]

/-- The job of the free name stays, although the batch is refused. -/
theorem append_notAllOrNothing_taken :
    Jobs.Built ⟨[freshJob "build"]⟩ ∧ Jobs.Built ⟨batchTaken⟩ ∧
    (Jobs.mk [freshJob "build"]).append batchTaken =
      (⟨[freshJob "build", freshJob "test"]⟩, some (.duplicateJob "BUILD")) ∧
    ¬ (Jobs.mk [freshJob "build"]).AllOrNothing batchTaken := by
  have hone : Jobs.ofList [freshJob "build"] = .ok ⟨[freshJob "build"]⟩ := by decide +kernel
  have htwo : Jobs.ofList batchTaken = .ok ⟨batchTaken⟩ := by decide +kernel
  exact ⟨.listed hone, .listed htwo, by decide +kernel, by decide +kernel⟩

/-- Where the job of the taken name is the first, nothing stays. -/
theorem append_allOrNothing_firstTaken :
    (Jobs.mk [freshJob "build"]).AllOrNothing batchTaken.reverse ∧
    ¬ (Jobs.mk [freshJob "build"]).AllOrNothing batchTaken ∧
    (Jobs.mk [freshJob "build"]).offered (freshJob "BUILD") = ⟨[freshJob "build"]⟩ ∧
    (Agents.mk [⟨⟨"a"⟩, "", "", []⟩]).offered ⟨⟨"a"⟩, "h", "", []⟩ = ⟨[⟨⟨"a"⟩, "", "", []⟩]⟩ := by
  obtain ⟨hreversed, -, -, -, hjob, hagent⟩ := append_allOrNothing_iff ⟨[freshJob "build"]⟩
    batchTaken.reverse (freshJob "BUILD") ⟨[⟨⟨"a"⟩, "", "", []⟩]⟩ ⟨⟨"a"⟩, "h", "", []⟩
  refine ⟨hreversed.mpr (.inr ⟨freshJob "BUILD", rfl, by decide +kernel⟩), by decide +kernel,
    hjob (.duplicateJob "BUILD") (by decide +kernel),
    hagent (.duplicateAgent ⟨"a"⟩) (by decide +kernel)⟩

end StageRuns
