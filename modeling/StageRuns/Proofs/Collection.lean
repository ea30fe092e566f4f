/-
# Adding instances to the jobs of a stage

Instances are added to the jobs of a stage exactly if no name is there twice,
up to the case of letters, and then they stand behind the others in their
order. Otherwise the first instance whose name is taken is refused.

Key definitions: `NamesDiffer`, `FirstNameTaken`.
Key theorems: `Jobs.appended_eq_ok`, `Jobs.ofList_eq_ok`,
`Jobs.ofList_eq_error`.
-/
import StageRuns.Job.Collection
import StageRuns.Proofs.Names
import StageRuns.Proofs.Outcome
import Mathlib.Data.List.Pairwise

namespace StageRuns

/-- The names of the two instances differ, case of letters apart. -/
def JobInstance.NameDiffers (a b : JobInstance) : Prop := Text.sameName a.name b.name = false

theorem JobInstance.NameDiffers.symm {a b : JobInstance} (h : a.NameDiffers b) :
    b.NameDiffers a :=
  Text.sameName_false_symm h

instance : Std.Symm JobInstance.NameDiffers := ⟨fun _ _ h => h.symm⟩

/-- No two of the instances have the same name, case of letters apart. -/
def NamesDiffer (js : List JobInstance) : Prop := js.Pairwise JobInstance.NameDiffers

instance (a b : JobInstance) : Decidable (a.NameDiffers b) := inferInstanceAs (Decidable (_ = _))

instance (js : List JobInstance) : Decidable (NamesDiffer js) :=
  inferInstanceAs (Decidable (List.Pairwise _ _))

/-- Two of them with the same name are one. -/
theorem NamesDiffer.eq_of_sameName {js : List JobInstance} (h : NamesDiffer js)
    {a b : JobInstance} (ha : a ∈ js) (hb : b ∈ js) (hs : Text.sameName a.name b.name = true) :
    a = b := by
  by_contra hne
  have hd : a.NameDiffers b := List.Pairwise.forall h ha hb hne
  rw [hd] at hs
  cases hs

/-- The instance is the first of the list that has the name of an earlier one,
case of letters apart. -/
def FirstNameTaken (js : List JobInstance) (j : JobInstance) : Prop :=
  ∃ before after, js = before ++ j :: after ∧ NamesDiffer before ∧
    ∃ k ∈ before, Text.sameName k.name j.name = true

namespace Jobs

theorem has_eq_false {jobs : Jobs} {name : String} : jobs.has name = false ↔
    ∀ j ∈ jobs.members, Text.sameName j.name name = false := by
  rw [has, byName?, Option.isSome_eq_false_iff, Option.isNone_iff_eq_none, List.find?_eq_none]
  simp

theorem add_eq_ok {jobs all : Jobs} {job : JobInstance} : jobs.add job = .ok all ↔
    (∀ j ∈ jobs.members, j.NameDiffers job) ∧ all = ⟨jobs.members ++ [job]⟩ := by
  unfold add
  by_cases h : jobs.has job.name = true
  · rw [if_pos h]
    refine ⟨nofun, fun ⟨hd, _⟩ => ?_⟩
    rw [has_eq_false.mpr hd] at h
    cases h
  · rw [if_neg h]
    rw [Bool.not_eq_true, has_eq_false] at h
    exact ⟨fun ha => ⟨h, by cases ha; rfl⟩, fun ⟨_, ha⟩ => by rw [ha]⟩

theorem add_eq_error {jobs : Jobs} {job : JobInstance} {failure : Failure} :
    jobs.add job = .error failure ↔
      (∃ j ∈ jobs.members, Text.sameName j.name job.name = true) ∧
        failure = .duplicateJob job.name := by
  unfold add
  by_cases h : jobs.has job.name = true
  · have hex : ∃ j ∈ jobs.members, Text.sameName j.name job.name = true := by
      by_contra hno
      rw [has_eq_false.mpr fun j hj => Bool.eq_false_iff.mpr fun hs => hno ⟨j, hj, hs⟩] at h
      cases h
    rw [if_pos h]
    exact ⟨fun hf => ⟨hex, by cases hf; rfl⟩, fun hf => by rw [hf.2]⟩
  · rw [if_neg h]
    refine ⟨nofun, fun ⟨⟨j, hj, hs⟩, _⟩ => ?_⟩
    rw [Bool.not_eq_true, has_eq_false] at h
    rw [h j hj] at hs
    cases hs

theorem appended_cons {jobs all : Jobs} {job : JobInstance} {more : List JobInstance} :
    jobs.appended (job :: more) = .ok all ↔
      ∃ next, jobs.add job = .ok next ∧ next.appended more = .ok all := by
  rw [appended, append]
  cases h : jobs.add job with
  | error e => exact ⟨nofun, fun ⟨_, h, _⟩ => nomatch h⟩
  | ok next => exact ⟨fun ha => ⟨next, rfl, ha⟩, fun ⟨_, h, ha⟩ => by cases h; exact ha⟩

/-- Instances are added exactly if none of them has a name that is taken or that
an earlier one of them has. -/
theorem appended_eq_ok : ∀ {jobs all : Jobs} {more : List JobInstance},
    jobs.appended more = .ok all ↔
      ((∀ a ∈ jobs.members, ∀ b ∈ more, a.NameDiffers b) ∧ NamesDiffer more) ∧
        all = ⟨jobs.members ++ more⟩
  | jobs, all, [] => by
    rw [List.append_nil]
    constructor
    · intro h
      cases h
      exact ⟨⟨fun _ _ _ hb => absurd hb List.not_mem_nil, .nil⟩, rfl⟩
    · rintro ⟨_, h⟩
      rw [h]
      rfl
  | jobs, all, job :: more => by
    rw [appended_cons, NamesDiffer, List.pairwise_cons]
    constructor
    · rintro ⟨next, hadd, hnext⟩
      obtain ⟨hjob, rfl⟩ := add_eq_ok.mp hadd
      obtain ⟨⟨hcross, hmore⟩, rfl⟩ := appended_eq_ok.mp hnext
      refine ⟨⟨fun a ha b hb => ?_, fun b hb => ?_, hmore⟩, by simp⟩
      · rcases List.mem_cons.mp hb with rfl | hb
        · exact hjob a ha
        · exact hcross a (List.mem_append_left _ ha) b hb
      · exact hcross job (by simp) b hb
    · rintro ⟨⟨hcross, hjob, hmore⟩, rfl⟩
      refine ⟨_, add_eq_ok.mpr ⟨fun a ha => hcross a ha job List.mem_cons_self, rfl⟩,
        appended_eq_ok.mpr ⟨⟨fun a ha b hb => ?_, hmore⟩, by simp⟩⟩
      rcases List.mem_append.mp ha with ha | ha
      · exact hcross a ha b (List.mem_cons_of_mem _ hb)
      · rw [List.mem_singleton.mp ha]
        exact hjob b hb

/-- Listed instances are the jobs of a stage exactly if their names differ. -/
theorem ofList_eq_ok {js : List JobInstance} {jobs : Jobs} :
    ofList js = .ok jobs ↔ NamesDiffer js ∧ jobs = ⟨js⟩ := by
  rw [ofList, appended_eq_ok]
  simp [empty]

theorem appended_cons_error {jobs : Jobs} {job : JobInstance} {more : List JobInstance}
    {failure : Failure} : jobs.appended (job :: more) = .error failure ↔
      jobs.add job = .error failure ∨
        ∃ next, jobs.add job = .ok next ∧ next.appended more = .error failure := by
  rw [appended, append]
  cases h : jobs.add job with
  | error e =>
    refine ⟨fun hf => .inl hf, ?_⟩
    rintro (hf | ⟨_, hf, _⟩)
    · exact hf
    · cases hf
  | ok next =>
    refine ⟨fun hf => .inr ⟨next, rfl, hf⟩, ?_⟩
    rintro (hf | ⟨_, hf, ha⟩)
    · cases hf
    · cases hf
      exact ha

/-- If instances cannot be added, the first whose name is taken is refused. -/
theorem appended_eq_error {failure : Failure} : ∀ {jobs : Jobs} {more : List JobInstance},
    NamesDiffer jobs.members → (jobs.appended more = .error failure ↔
      ∃ before j after, more = before ++ j :: after ∧ NamesDiffer (jobs.members ++ before) ∧
        (∃ k ∈ jobs.members ++ before, Text.sameName k.name j.name = true) ∧
          failure = .duplicateJob j.name)
  | jobs, [], _ => by
    refine ⟨nofun, ?_⟩
    rintro ⟨before, j, after, h, -⟩
    simp at h
  | jobs, job :: more, hjobs => by
    rw [appended_cons_error]
    constructor
    · rintro (h | ⟨next, hadd, hnext⟩)
      · obtain ⟨hex, rfl⟩ := add_eq_error.mp h
        exact ⟨[], job, more, rfl, by simpa using hjobs, by simpa using hex, rfl⟩
      · obtain ⟨hjob, rfl⟩ := add_eq_ok.mp hadd
        have hmembers : NamesDiffer (jobs.members ++ [job]) :=
          List.pairwise_append.mpr ⟨hjobs, List.pairwise_singleton .., by simpa using hjob⟩
        obtain ⟨before, j, after, rfl, hd, hex, rfl⟩ := (appended_eq_error hmembers).mp hnext
        rw [List.append_assoc, List.singleton_append] at hd hex
        exact ⟨job :: before, j, after, rfl, hd, hex, rfl⟩
    · rintro ⟨before, j, after, h, hd, hex, rfl⟩
      cases before with
      | nil =>
        obtain ⟨rfl, rfl⟩ := List.cons.inj h
        exact .inl (add_eq_error.mpr ⟨by simpa using hex, rfl⟩)
      | cons k before =>
        obtain ⟨rfl, rfl⟩ := List.cons.inj h
        have hcons : jobs.members ++ job :: before = (jobs.members ++ [job]) ++ before := by simp
        rw [hcons] at hd hex
        have hmembers : NamesDiffer (jobs.members ++ [job]) := (List.pairwise_append.mp hd).1
        have hjob := (List.pairwise_append.mp hmembers).2.2
        exact .inr ⟨_, add_eq_ok.mpr ⟨fun a ha => hjob a ha job List.mem_cons_self, rfl⟩,
          (appended_eq_error hmembers).mpr ⟨before, j, after, rfl, hd, hex, rfl⟩⟩

/-- Listed instances are not the jobs of a stage if a name is there twice; the
first that has the name of an earlier one is refused. -/
theorem ofList_eq_error {js : List JobInstance} {failure : Failure} :
    ofList js = .error failure ↔ ∃ j, FirstNameTaken js j ∧ failure = .duplicateJob j.name := by
  have hnil : NamesDiffer empty.members := .nil
  rw [ofList, appended_eq_error hnil]
  constructor
  · rintro ⟨before, j, after, rfl, hd, hex, rfl⟩
    exact ⟨j, ⟨before, after, rfl, hd, hex⟩, rfl⟩
  · rintro ⟨j, ⟨before, after, rfl, hd, hex⟩, rfl⟩
    exact ⟨before, j, after, rfl, hd, hex, rfl⟩

end Jobs
end StageRuns
