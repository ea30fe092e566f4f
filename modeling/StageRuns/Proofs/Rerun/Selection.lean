/-
# What a request selects, and its groups

A request is accepted if it is not empty and each of its names stands for an
instance. The groups of the selected instances have different jobs, and each
group holds all selected instances of its job, in the order of the stage.

Key definitions: `Stage.Names`, `Stage.Knows`, `Stage.Selects`, `Stage.Accepts`.
Key theorems: `Stage.accepts_iff`, `Stage.selects_iff`, `Stage.checkRequest_eq_ok`,
`Stage.checkRequest_eq_error`, `RerunGroup.pairwise_ofInstances`,
`RerunGroup.members_eq_filter`, `RerunGroup.ofInstances_eq_append`,
`RerunGroup.exists_mem_ofInstances`.
-/
import StageRuns.Rerun.Selection
import StageRuns.Proofs.Collection

namespace StageRuns
namespace Stage

/-- The name stands for the instance: it is the name of the instance, or it is
the name of no instance but that of the job of the instance. -/
def Names (stage : Stage) (name : String) (job : JobInstance) : Prop :=
  Text.sameName job.name name = true ∨
    (∀ j ∈ stage.jobs.members, Text.sameName j.name name = false) ∧
      Text.sameName job.baseName name = true

/-- The name is that of an instance of the stage, or that of the job of one. -/
def Knows (stage : Stage) (name : String) : Prop :=
  ∃ j ∈ stage.jobs.members, Text.sameName j.name name = true ∨ Text.sameName j.baseName name = true

/-- A name of the request stands for the instance. -/
def Selects (stage : Stage) (request : List String) (job : JobInstance) : Prop :=
  ∃ name ∈ request, stage.Names name job

/-- The request names something, and each name stands for an instance. -/
def Accepts (stage : Stage) (request : List String) : Prop :=
  request ≠ [] ∧ ∀ name ∈ request, ∃ j ∈ stage.jobs.members, stage.Names name j

instance (stage : Stage) (name : String) (job : JobInstance) : Decidable (stage.Names name job) :=
  inferInstanceAs (Decidable (_ ∨ _))

instance (stage : Stage) (name : String) : Decidable (stage.Knows name) :=
  inferInstanceAs (Decidable (∃ j ∈ stage.jobs.members, _))

instance (stage : Stage) (request : List String) (job : JobInstance) :
    Decidable (stage.Selects request job) :=
  inferInstanceAs (Decidable (∃ name ∈ request, _))

instance (stage : Stage) (request : List String) : Decidable (stage.Accepts request) :=
  inferInstanceAs (Decidable (_ ∧ _))

variable {stage : Stage} {request : List String} {job : JobInstance}

/-- A name stands for an instance if it is that of an instance or that of a
job. -/
theorem exists_names_iff {name : String} :
    (∃ j ∈ stage.jobs.members, stage.Names name j) ↔ stage.Knows name := by
  constructor
  · rintro ⟨j, hj, h | ⟨-, h⟩⟩
    · exact ⟨j, hj, .inl h⟩
    · exact ⟨j, hj, .inr h⟩
  · rintro ⟨j, hj, h⟩
    by_cases hname : ∃ k ∈ stage.jobs.members, Text.sameName k.name name = true
    · obtain ⟨k, hk, hk'⟩ := hname
      exact ⟨k, hk, .inl hk'⟩
    · rcases h with h | h
      · exact absurd ⟨j, hj, h⟩ hname
      · exact ⟨j, hj, .inr ⟨fun k hk => Bool.eq_false_iff.mpr fun hs => hname ⟨k, hk, hs⟩, h⟩⟩

/-- A request is accepted if each of its names is that of an instance or that of
a job. -/
theorem accepts_iff : stage.Accepts request ↔ request ≠ [] ∧ ∀ name ∈ request,
    ∃ j ∈ stage.jobs.members,
      Text.sameName j.name name = true ∨ Text.sameName j.baseName name = true :=
  and_congr_right fun _ => forall₂_congr fun _ _ => exists_names_iff

theorem isNamed_iff {name : String} (hj : job ∈ stage.jobs.members) :
    stage.isNamed name job = true ↔ stage.Names name job := by
  unfold isNamed Names
  cases h : stage.jobs.has name with
  | false =>
    rw [Jobs.has_eq_false] at h
    simp only [Bool.false_eq_true, ↓reduceIte, h job hj, false_or, and_iff_right h]
  | true =>
    have hex : ¬ ∀ j ∈ stage.jobs.members, Text.sameName j.name name = false := fun ha => by
      rw [Jobs.has_eq_false.mpr ha] at h
      cases h
    simp only [↓reduceIte, hex, false_and, or_false]

theorem selects_iff (hj : job ∈ stage.jobs.members) :
    stage.selects request job = true ↔ stage.Selects request job := by
  simp [selects, Selects, isNamed_iff hj]

theorem selects_eq_false_iff (hj : job ∈ stage.jobs.members) :
    stage.selects request job = false ↔ ¬ stage.Selects request job := by
  rw [← selects_iff hj, Bool.not_eq_true]

theorem knows_iff {name : String} :
    stage.knows name = true ↔ ∃ j ∈ stage.jobs.members, stage.Names name j := by
  rw [knows, List.any_eq_true]
  exact exists_congr fun j => and_congr_right isNamed_iff

theorem checkRequest_eq_ok : stage.checkRequest request = .ok () ↔ stage.Accepts request := by
  unfold checkRequest Accepts
  cases request with
  | nil => exact ⟨nofun, fun h => absurd rfl h.1⟩
  | cons name more =>
    rw [List.isEmpty_cons, if_neg Bool.false_ne_true]
    cases h : (name :: more).find? fun n => !stage.knows n with
    | some n =>
      refine ⟨nofun, fun ⟨_, ha⟩ => ?_⟩
      have hn := List.find?_some h
      rw [knows_iff.mpr (ha n (List.mem_of_find?_eq_some h))] at hn
      cases hn
    | none =>
      rw [List.find?_eq_none] at h
      refine ⟨fun _ => ⟨nofun, fun n hn => knows_iff.mp ?_⟩, fun _ => rfl⟩
      simpa using h n hn

/-- A request is refused if it is empty, or else for its first unknown name. -/
theorem checkRequest_eq_error {failure : Failure} :
    stage.checkRequest request = .error failure ↔
      request = [] ∧ failure = .invalidArgument "No job was selected to re-run." ∨
        ∃ before name after, request = before ++ name :: after ∧ (∀ n ∈ before, stage.Knows n) ∧
          ¬ stage.Knows name ∧ failure = .invalidArgument
            ("Job '" ++ name ++ "' does not exist in stage '" ++ stage.name ++ "'.") := by
  have hknows : ∀ n, stage.knows n = true ↔ stage.Knows n :=
    fun _ => knows_iff.trans exists_names_iff
  unfold checkRequest
  cases request with
  | nil => simp [eq_comm]
  | cons name more =>
    rw [List.isEmpty_cons, if_neg Bool.false_ne_true]
    simp only [reduceCtorEq, false_and, false_or]
    constructor
    · intro h
      split at h
      case h_1 n hn =>
        obtain ⟨hunknown, before, after, hsplit, hbefore⟩ := List.find?_eq_some_iff_append.mp hn
        cases h
        refine ⟨before, n, after, hsplit, fun m hm => (hknows m).mp ?_, fun hk => ?_, rfl⟩
        · simpa using hbefore m hm
        · rw [(hknows n).mpr hk] at hunknown
          cases hunknown
      case h_2 => cases h
    · rintro ⟨before, n, after, hsplit, hbefore, hunknown, rfl⟩
      have hfind : (name :: more).find? (fun n => !stage.knows n) = some n := by
        refine List.find?_eq_some_iff_append.mpr ⟨?_, before, after, hsplit, fun m hm => ?_⟩
        · rw [Bool.not_eq_true', Bool.eq_false_iff, ne_eq, hknows]
          exact hunknown
        · rw [(hknows m).mpr (hbefore m hm)]
          rfl
      rw [hfind]

end Stage

namespace JobInstance

theorem isSibling_self (a : JobInstance) : a.isSibling a = true := Text.sameName_self _

theorem isSibling_comm (a b : JobInstance) : a.isSibling b = b.isSibling a := Text.sameName_comm _ _

/-- Siblings have the same siblings. -/
theorem isSibling_congr {a b : JobInstance} (h : a.isSibling b = true) (c : JobInstance) :
    a.isSibling c = b.isSibling c :=
  Text.sameName_congr h _

end JobInstance

namespace RerunGroup

theorem ofInstances_cons (j : JobInstance) (js : List JobInstance) :
    ofInstances (j :: js) = ⟨j, js.filter j.isSibling⟩ :: ofInstances (j.strangers js) := by
  rw [ofInstances]

theorem first_mem {g : RerunGroup} {js : List JobInstance} (h : g ∈ ofInstances js) :
    g.first ∈ js := by
  induction js using ofInstances.induct with
  | case1 => simp [ofInstances] at h
  | case2 j js ih =>
    rw [ofInstances_cons] at h
    rcases List.mem_cons.mp h with rfl | h
    · exact List.mem_cons_self
    · exact List.mem_cons_of_mem _ (List.mem_filter.mp (ih h)).1

/-- Groups are made of different jobs. -/
theorem pairwise_ofInstances (js : List JobInstance) :
    (ofInstances js).Pairwise fun g h => g.first.isSibling h.first = false := by
  induction js using ofInstances.induct with
  | case1 => simp [ofInstances]
  | case2 j js ih =>
    rw [ofInstances_cons, List.pairwise_cons]
    refine ⟨fun g hg => ?_, ih⟩
    simpa using (List.mem_filter.mp (first_mem hg)).2

/-- A group holds all instances of its job, in their order. -/
theorem members_eq_filter {g : RerunGroup} {js : List JobInstance} (h : g ∈ ofInstances js) :
    g.members = js.filter g.first.isSibling := by
  induction js using ofInstances.induct with
  | case1 => simp [ofInstances] at h
  | case2 j js ih =>
    rw [ofInstances_cons] at h
    rcases List.mem_cons.mp h with rfl | h
    · simp [members, JobInstance.isSibling_self]
    · have hj : j.isSibling g.first = false := by
        simpa using (List.mem_filter.mp (first_mem h)).2
      have hg : g.first.isSibling j = false := by rw [JobInstance.isSibling_comm]; exact hj
      rw [ih h, JobInstance.strangers, List.filter_cons, if_neg (by simp [hg]), List.filter_filter]
      refine List.filter_congr fun k _ => ?_
      -- a sibling of the first of another group is no sibling of `j`
      cases hk : g.first.isSibling k with
      | false => rfl
      | true => simp [JobInstance.isSibling_comm j k, ← JobInstance.isSibling_congr hk, hg]

/-- The groups before a group are those whose first instances stand before the
first one of the group. -/
theorem ofInstances_eq_append {g : RerunGroup} : ∀ {js before after : List JobInstance},
    g ∈ ofInstances js → js = before ++ g.first :: after →
      ∃ gs hs, ofInstances js = gs ++ g :: hs ∧ ∀ h ∈ gs, h.first ∈ before := by
  intro js
  induction js using ofInstances.induct with
  | case1 =>
    intro _ _ hg
    simp [ofInstances] at hg
  | case2 j js ih =>
    intro before after hg hjs
    rw [ofInstances_cons] at hg ⊢
    rcases List.mem_cons.mp hg with rfl | hg
    · exact ⟨[], ofInstances (j.strangers js), List.nil_append _,
        fun _ hh => absurd hh List.not_mem_nil⟩
    · have hfirst : g.first ∈ j.strangers js := first_mem hg
      have hj : (!j.isSibling g.first) = true := (List.mem_filter.mp hfirst).2
      cases before with
      | nil =>
        obtain ⟨hjg, -⟩ := List.cons.inj hjs
        rw [← hjg, JobInstance.isSibling_self] at hj
        cases hj
      | cons k before =>
        obtain ⟨rfl, rfl⟩ := List.cons.inj hjs
        have hrest : j.strangers (before ++ g.first :: after) =
            j.strangers before ++ g.first :: j.strangers after := by
          rw [JobInstance.strangers, List.filter_append, List.filter_cons, if_pos hj]
          rfl
        obtain ⟨gs, hs, hsplit, hgs⟩ := ih hg hrest
        refine ⟨_ :: gs, hs, by rw [hsplit, List.cons_append], fun h hh => ?_⟩
        rcases List.mem_cons.mp hh with rfl | hh
        · exact List.mem_cons_self
        · exact List.mem_cons_of_mem _ (List.mem_filter.mp (hgs h hh)).1

theorem exists_mem_ofInstances {j : JobInstance} {js : List JobInstance} (h : j ∈ js) :
    ∃ g ∈ ofInstances js, g.first.isSibling j = true := by
  induction js using ofInstances.induct with
  | case1 => cases h
  | case2 k js ih =>
    rw [ofInstances_cons]
    cases hk : k.isSibling j with
    | true => exact ⟨_, List.mem_cons_self, hk⟩
    | false =>
      have hj : j ∈ k.strangers js := by
        rcases List.mem_cons.mp h with rfl | h
        · rw [JobInstance.isSibling_self] at hk
          cases hk
        · exact List.mem_filter.mpr ⟨h, by simp [hk]⟩
      obtain ⟨g, hg, hs⟩ := ih hj
      exact ⟨g, List.mem_cons_of_mem _ hg, hs⟩

theorem mem_members_iff {g : RerunGroup} {js : List JobInstance} (hg : g ∈ ofInstances js)
    {j : JobInstance} : j ∈ g.members ↔ j ∈ js ∧ g.first.isSibling j = true := by
  rw [members_eq_filter hg, List.mem_filter]

end RerunGroup
end StageRuns
