/-
# What saving does

Saving gives numbers to records and leaves everything else as it is
(`Stage.forall₂_save`). The numbers come from a counter that only goes up. It is
advanced in three places, once for a stage, once for a job, and by the length of the
list for the transitions of a job. Still no number is given twice, whatever other
records are kept under the same counter (`Apart.saveStage`). A saved stage has only
saved records, and nothing happens when it is saved again (`Stage.save_of_isSaved`).

Key definitions: `givenNumbers`, `Apart`, `Stage.numbers`, `JobInstance.SameOutcome`,
`JobInstance.SavedAs`, `Stage.IsSaved`.
Key theorems: `Stage.forall₂_save`, `Apart.saveStage`, `Apart.nodup_jobIds`,
`Stage.isSaved_save`, `Stage.save_of_isSaved`.
-/
import StageRuns.Saving
import Mathlib.Data.List.Flatten
import Mathlib.Data.List.Forall2
import Mathlib.Data.List.Nodup
import Mathlib.Data.List.Perm.Basic

namespace StageRuns

/-! ### Numbers from a counter -/

namespace Id

variable {entity : Entity}

/-- The next number never goes down. -/
theorem le_save (id : Id entity) (next : Int) : next ≤ (id.save next).2 := by
  unfold save
  split
  · exact Int.le_refl next
  · exact Int.le_add_one (Int.le_refl next)

theorem isSaved_save (id : Id entity) {next : Int} (h : 0 ≤ next) :
    (id.save next).1.isSaved = true := by
  unfold save
  split
  case isTrue hs => exact hs
  case isFalse =>
    rw [isSaved, bne_iff_ne]
    show next ≠ -1
    omega

end Id

/-! ### Numbers that were given -/

/-- The numbers that were given; a record that was not saved has none. -/
def givenNumbers (numbers : List Int) : List Int := numbers.filter fun n => n != -1

/-- No two of the numbers that were given are equal, and the next one is beyond them. -/
structure Apart (next : Int) (numbers : List Int) : Prop where
  nodup : (givenNumbers numbers).Nodup
  below : ∀ n ∈ givenNumbers numbers, n < next

/-- The numbers of a job and its transitions. -/
def JobInstance.numbers (job : JobInstance) : List Int :=
  job.id.value :: job.transitions.map (·.id.value)

/-- The numbers of a stage, its jobs and their transitions. -/
def Stage.numbers (stage : Stage) : List Int :=
  stage.id.value :: stage.jobs.members.flatMap JobInstance.numbers

theorem givenNumbers_append (ms ns : List Int) :
    givenNumbers (ms ++ ns) = givenNumbers ms ++ givenNumbers ns :=
  List.filter_append ..

theorem givenNumbers_eq_nil {numbers : List Int} (h : ∀ n ∈ numbers, n = -1) :
    givenNumbers numbers = [] :=
  List.filter_eq_nil_iff.mpr fun n hn => by simp [h n hn]

theorem givenNumbers_cons {n : Int} (h : 0 ≤ n) (ns : List Int) :
    givenNumbers (n :: ns) = n :: givenNumbers ns := by
  refine List.filter_cons_of_pos ?_
  rw [bne_iff_ne]
  omega

namespace Apart

variable {next later : Int} {ms ns : List Int}

theorem of_given (h : Apart next ms) (hg : givenNumbers ns = givenNumbers ms) : Apart next ns :=
  ⟨hg ▸ h.nodup, hg ▸ h.below⟩

theorem perm (h : Apart next ms) (hp : ms.Perm ns) : Apart next ns := by
  have hg : (givenNumbers ms).Perm (givenNumbers ns) := hp.filter _
  exact ⟨hg.nodup_iff.mp h.nodup, fun n hn => h.below n (hg.mem_iff.mpr hn)⟩

theorem sublist (h : Apart next ms) (hs : ns.Sublist ms) : Apart next ns := by
  have hg : (givenNumbers ns).Sublist (givenNumbers ms) := hs.filter _
  exact ⟨h.nodup.sublist hg, fun n hn => h.below n (hg.subset hn)⟩

/-- The next number is given. -/
theorem cons_next (h : Apart next ns) (h0 : 0 ≤ next) : Apart (next + 1) (next :: ns) := by
  refine ⟨?_, ?_⟩
  all_goals rw [givenNumbers_cons h0]
  · exact List.nodup_cons.mpr ⟨fun hn => absurd (h.below next hn) (Int.lt_irrefl next), h.nodup⟩
  · exact List.forall_mem_cons.mpr
      ⟨Int.lt_succ next, fun n hn => Int.lt_trans (h.below n hn) (Int.lt_succ next)⟩

end Apart

/-! ### A saved job -/

/-- What became of a job is the same in both instances: they differ at most in
agent, origin and numbers. -/
structure JobInstance.SameOutcome (a b : JobInstance) : Prop where
  name : b.name = a.name
  runType : b.runType = a.runType
  state : b.state = a.state
  result : b.result = a.result
  scheduledDate : b.scheduledDate = a.scheduledDate
  /-- The plans are equal apart from the number of the job. -/
  plan : b.plan = { a.plan with
    identifier := { a.plan.identifier with buildId := b.plan.identifier.buildId } }
  transitions : (b.transitions.map fun t => (t.state, t.time)) =
    a.transitions.map fun t => (t.state, t.time)

/-- The record of the job with numbers. -/
structure JobInstance.SavedAs (job saved : JobInstance) : Prop where
  outcome : job.SameOutcome saved
  agent : saved.agent = job.agent
  origin : saved.origin = job.origin

theorem Transition.map_number : ∀ (first : Int) (ts : List Transition),
    ((number first ts).map fun t => (t.state, t.time)) = ts.map fun t => (t.state, t.time)
  | _, [] => rfl
  | first, t :: ts => by rw [number, List.map_cons, List.map_cons, map_number (first + 1) ts]

namespace JobInstance

variable {a b c : JobInstance}

theorem SameOutcome.refl (a : JobInstance) : a.SameOutcome a := ⟨rfl, rfl, rfl, rfl, rfl, rfl, rfl⟩

theorem SameOutcome.trans (hab : a.SameOutcome b) (hbc : b.SameOutcome c) : a.SameOutcome c where
  name := hbc.name.trans hab.name
  runType := hbc.runType.trans hab.runType
  state := hbc.state.trans hab.state
  result := hbc.result.trans hab.result
  scheduledDate := hbc.scheduledDate.trans hab.scheduledDate
  plan := by rw [hbc.plan, hab.plan]
  transitions := hbc.transitions.trans hab.transitions

theorem savedAs_saveTransitions (job : JobInstance) (next : Int) :
    job.SavedAs (job.saveTransitions next).1 := by
  unfold saveTransitions
  split
  · exact ⟨.refl job, rfl, rfl⟩
  · exact ⟨⟨rfl, rfl, rfl, rfl, rfl, rfl, Transition.map_number next job.transitions⟩, rfl, rfl⟩

theorem savedAs_save (job : JobInstance) (next : Int) : job.SavedAs (job.save next).1 := by
  unfold save
  split
  · exact job.savedAs_saveTransitions next
  · obtain ⟨hout, ha, ho⟩ := (job.withId ⟨next⟩).savedAs_saveTransitions (next + 1)
    have hid : job.SameOutcome (job.withId ⟨next⟩) := ⟨rfl, rfl, rfl, rfl, rfl, rfl, rfl⟩
    exact ⟨hid.trans hout, ha, ho⟩

theorem saveTransitions_spec (job : JobInstance) (next : Int) :
    (job.saveTransitions next).1.id = job.id ∧ next ≤ (job.saveTransitions next).2 := by
  unfold saveTransitions
  split
  · exact ⟨rfl, Int.le_refl next⟩
  · exact ⟨rfl, Int.le_add_of_nonneg_right (Int.natCast_nonneg _)⟩

/-- The number of a saved job, and what the next number is then at least. -/
theorem save_spec (job : JobInstance) (next : Int) :
    (job.save next).1.id = (job.id.save next).1 ∧ (job.id.save next).2 ≤ (job.save next).2 := by
  unfold save Id.save
  split
  · exact job.saveTransitions_spec next
  · exact (job.withId ⟨next⟩).saveTransitions_spec (next + 1)

theorem le_save (job : JobInstance) (next : Int) : next ≤ (job.save next).2 :=
  Int.le_trans (job.id.le_save next) (job.save_spec next).2

end JobInstance

/-! ### A saved stage -/

/-- The numbers of the jobs in order. -/
def Stage.jobIds (stage : Stage) : List JobId := stage.jobs.members.map (·.id)

theorem Stage.jobIds_sublist (stage : Stage) :
    (stage.jobIds.map (·.value)).Sublist stage.numbers := by
  rw [jobIds, List.map_map]
  refine .cons _ ?_
  induction stage.jobs.members with
  | nil => exact .slnil
  | cons j js ih => exact .cons_cons j.id.value (ih.trans (List.sublist_append_right _ _))

theorem Stage.saveJobs_cons (next : Int) (job : JobInstance) (rest : List JobInstance) :
    saveJobs next (job :: rest) = ((job.save next).1 :: (saveJobs (job.save next).2 rest).1,
      (saveJobs (job.save next).2 rest).2) := rfl

theorem Stage.forall₂_savedAs_saveJobs : ∀ (js : List JobInstance) (next : Int),
    List.Forall₂ JobInstance.SavedAs js (saveJobs next js).1
  | [], _ => .nil
  | j :: js, next => .cons (j.savedAs_save next) (forall₂_savedAs_saveJobs js _)

theorem Stage.le_saveJobs : ∀ (js : List JobInstance) (next : Int), next ≤ (saveJobs next js).2
  | [], next => Int.le_refl next
  | j :: js, next => Int.le_trans (j.le_save next) (le_saveJobs js (j.save next).2)

theorem Stage.le_save (stage : Stage) (next : Int) : next ≤ (stage.save next).2 :=
  Int.le_trans (stage.id.le_save next) (le_saveJobs _ _)

/-- Only numbers change when a stage is saved. -/
theorem Stage.forall₂_save (stage : Stage) (next : Int) :
    List.Forall₂ JobInstance.SavedAs stage.jobs.members (stage.save next).1.jobs.members :=
  forall₂_savedAs_saveJobs _ _

/-! ### No number is given twice -/

namespace Apart

variable {next : Int} {ns : List Int}

/-- All transitions of a job are given the next numbers. -/
theorem numberTransitions : ∀ (ts : List Transition) {next : Int} {ns : List Int},
    Apart next ns → 0 ≤ next →
      Apart (next + ts.length) ((Transition.number next ts).map (·.id.value) ++ ns)
  | [], next, ns, h, _ => by
    have hnext : next + ([] : List Transition).length = next := Int.add_zero next
    rw [hnext]
    exact h
  | t :: ts, next, ns, h, h0 => by
    -- the others are numbered beside the first one
    have hrest := numberTransitions ts (h.cons_next h0) (by omega)
    have hnext : next + (t :: ts).length = next + 1 + ts.length := by
      rw [List.length_cons]
      omega
    rw [hnext]
    exact hrest.perm List.perm_middle

variable {job : JobInstance}

theorem saveTransitions (h : Apart next (job.numbers ++ ns)) (h0 : 0 ≤ next) :
    Apart (job.saveTransitions next).2 ((job.saveTransitions next).1.numbers ++ ns) := by
  unfold JobInstance.saveTransitions
  split
  · exact h
  · -- the transitions lose the numbers that they have
    have hdropped : Apart next (job.id.value :: ns) :=
      h.sublist ((List.sublist_append_right _ ns).cons_cons _)
    exact (hdropped.numberTransitions job.transitions h0).perm List.perm_middle

/-- A saved job has numbers of its own. -/
theorem saveJob (h : Apart next (job.numbers ++ ns)) (h0 : 0 ≤ next) :
    Apart (job.save next).2 ((job.save next).1.numbers ++ ns) := by
  unfold JobInstance.save
  split
  · exact h.saveTransitions h0
  · have hdropped : Apart next (job.transitions.map (·.id.value) ++ ns) :=
      h.sublist (List.sublist_cons_self _ _)
    have hgiven : Apart (next + 1) ((job.withId ⟨next⟩).numbers ++ ns) := hdropped.cons_next h0
    exact hgiven.saveTransitions (by omega)

theorem saveJobs : ∀ {js : List JobInstance} {next : Int} {ns : List Int},
    Apart next (js.flatMap JobInstance.numbers ++ ns) → 0 ≤ next →
      Apart (Stage.saveJobs next js).2
        ((Stage.saveJobs next js).1.flatMap JobInstance.numbers ++ ns)
  | [], _, _, h, _ => h
  | j :: js, next, ns, h, h0 => by
    rw [List.flatMap_cons, List.append_assoc] at h
    have hnext : 0 ≤ (j.save next).2 := Int.le_trans h0 (j.le_save next)
    -- the others are saved beside this one
    have hbeside := (h.saveJob h0).perm (List.perm_append_comm_assoc _ _ ns)
    have hrest := (saveJobs hbeside hnext).perm (List.perm_append_comm_assoc _ _ ns)
    rw [Stage.saveJobs_cons, List.flatMap_cons, List.append_assoc]
    exact hrest

/-- A saved stage has numbers of its own, also among those of all other records. -/
theorem saveStage {stage : Stage} (h : Apart next (stage.numbers ++ ns)) (h0 : 0 ≤ next) :
    Apart (stage.save next).2 ((stage.save next).1.numbers ++ ns) := by
  have hid : Apart (stage.id.save next).2
      ((stage.id.save next).1.value :: (stage.jobs.members.flatMap JobInstance.numbers ++ ns)) := by
    unfold Id.save
    split
    · exact h
    · exact (h.sublist (List.sublist_cons_self _ _)).cons_next h0
  have hnext : 0 ≤ (stage.id.save next).2 := Int.le_trans h0 (stage.id.le_save next)
  exact (saveJobs (hid.perm List.perm_middle.symm) hnext).perm List.perm_middle

/-- The jobs of saved stages have numbers of their own. -/
theorem nodup_jobIds {stages : List Stage} (h : Apart next (stages.flatMap Stage.numbers))
    (hsaved : ∀ stage ∈ stages, ∀ j ∈ stage.jobs.members, j.id.isSaved = true) :
    (stages.flatMap Stage.jobIds).Nodup := by
  have hsub : ((stages.flatMap Stage.jobIds).map (·.value)).Sublist
      (stages.flatMap Stage.numbers) := by
    rw [List.map_flatMap]
    exact List.Sublist.flatMap_right _ fun stage _ => stage.jobIds_sublist
  have hgiven : givenNumbers ((stages.flatMap Stage.jobIds).map (·.value)) =
      (stages.flatMap Stage.jobIds).map (·.value) := by
    refine List.filter_eq_self.mpr fun n hn => ?_
    obtain ⟨id, hid, rfl⟩ := List.mem_map.mp hn
    obtain ⟨stage, hstage, hid⟩ := List.mem_flatMap.mp hid
    obtain ⟨j, hj, rfl⟩ := List.mem_map.mp hid
    exact hsaved stage hstage j hj
  have hnodup := (h.sublist hsub).nodup
  rw [hgiven] at hnodup
  exact List.Nodup.of_map _ hnodup

end Apart

/-! ### Saved records -/

/-- The job and all its transitions have a number. -/
structure JobInstance.IsSaved (job : JobInstance) : Prop where
  id : job.id.isSaved = true
  transitions : job.areTransitionsSaved = true

/-- The stage, all its jobs and all their transitions have a number. -/
structure Stage.IsSaved (stage : Stage) : Prop where
  id : stage.id.isSaved = true
  jobs : ∀ j ∈ stage.jobs.members, j.IsSaved

theorem Transition.isSaved_of_mem_number : ∀ {ts : List Transition} {first : Int}, 0 ≤ first →
    ∀ t ∈ number first ts, t.id.isSaved = true
  | [], _, _, _, ht => absurd ht List.not_mem_nil
  | u :: ts, first, h, t, ht => by
    rcases List.mem_cons.mp ht with rfl | ht
    · rw [Id.isSaved, bne_iff_ne]
      show first ≠ -1
      omega
    · exact isSaved_of_mem_number (by omega) t ht

namespace JobInstance

variable {job : JobInstance} {next : Int}

theorem areTransitionsSaved_saveTransitions (job : JobInstance) (h0 : 0 ≤ next) :
    (job.saveTransitions next).1.areTransitionsSaved = true := by
  unfold saveTransitions
  split
  case isTrue hs => exact hs
  case isFalse => exact List.all_eq_true.mpr (Transition.isSaved_of_mem_number h0)

theorem isSaved_save (job : JobInstance) (h0 : 0 ≤ next) : (job.save next).1.IsSaved := by
  refine ⟨?_, ?_⟩
  · rw [(job.save_spec next).1]
    exact job.id.isSaved_save h0
  · unfold save
    split
    · exact job.areTransitionsSaved_saveTransitions h0
    · exact (job.withId ⟨next⟩).areTransitionsSaved_saveTransitions (by omega)

/-- Nothing happens to a job that is saved. -/
theorem save_of_isSaved (h : job.IsSaved) (next : Int) : job.save next = (job, next) := by
  rw [save, if_pos h.id, saveTransitions, if_pos h.transitions]

end JobInstance

namespace Stage

variable {stage : Stage} {next : Int}

theorem isSaved_of_mem_saveJobs : ∀ {js : List JobInstance} {next : Int}, 0 ≤ next →
    ∀ j ∈ (saveJobs next js).1, j.IsSaved
  | [], _, _, _, hj => absurd hj List.not_mem_nil
  | k :: js, next, h0, j, hj => by
    rw [saveJobs_cons, List.mem_cons] at hj
    rcases hj with rfl | hj
    · exact k.isSaved_save h0
    · have hnext : 0 ≤ (k.save next).2 := Int.le_trans h0 (k.le_save next)
      exact isSaved_of_mem_saveJobs hnext j hj

theorem isSaved_save (stage : Stage) (h0 : 0 ≤ next) : (stage.save next).1.IsSaved :=
  ⟨stage.id.isSaved_save h0, isSaved_of_mem_saveJobs (Int.le_trans h0 (stage.id.le_save next))⟩

theorem saveJobs_of_isSaved (next : Int) : ∀ {js : List JobInstance}, (∀ j ∈ js, j.IsSaved) →
    saveJobs next js = (js, next)
  | [], _ => rfl
  | j :: js, h => by
    obtain ⟨hj, hjs⟩ := List.forall_mem_cons.mp h
    rw [saveJobs_cons, j.save_of_isSaved hj, saveJobs_of_isSaved next hjs]

/-- Nothing happens to a stage that is saved, and no number is used up. -/
theorem save_of_isSaved (h : stage.IsSaved) (next : Int) : stage.save next = (stage, next) := by
  rw [save, Id.save, if_pos h.id]
  simp only [saveJobs_of_isSaved next h.jobs]

end Stage

end StageRuns
