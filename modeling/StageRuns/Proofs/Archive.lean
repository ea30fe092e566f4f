/-
# Records under one counter

An archive holds stages that were instantiated and stages that are reruns of one
another, all as they are now, and the next number. Stages come in, calls move their
jobs, and stages are saved, in any order. A rerun starts with records that have no
number. Still no number is given twice (`Archive.identities`).

What carries this through all steps is that saving keeps numbers apart
(`Apart.saveStage`), that calls add transitions without a number and touch no other
record (`JobInstance.sameRecord_applied`), and that the identifier in the plan of a
job says the name, the stage and the number of the job
(`JobInstance.IsIdentifiedIn`), also after the number was given or taken away.

Numbers are integers of any size here. Records hold theirs in 64 bits, so all this is
said of counters that stay within 64 bits.

Key definitions: `JobInstance.IsIdentifiedIn`, `Stage.KeepsNumbers`, `Archive`,
`Archive.Step`, `Archive.InOrder`, `Archive.KeptIn`.
Key theorems: `JobInstance.sameRecord_applied`, `Archive.InOrder.step`,
`Archive.Step.keptIn`, `Archive.run_goesOn`, `Archive.identities`.
-/
import StageRuns.Proofs.Calls
import StageRuns.Proofs.Rerun.Copies
import Mathlib.Logic.Relation

namespace StageRuns

/-! ### Records through calls -/

/-- Numbers are given when a stage is saved; these are the calls by which that is
done. -/
def JobInstance.Call.givesNumbers : Call → Bool
  | setId _ => true
  | assignIds _ => true
  | _ => false

/-- The job is the same record; transitions that were added have no number. -/
structure JobInstance.SameRecord (job next : JobInstance) : Prop where
  name : next.name = job.name
  id : next.id = job.id
  plan : next.plan = job.plan
  transitions : ∃ added, next.transitions = job.transitions ++ added ∧
    ∀ t ∈ added, t.id = .unsaved

/-- The identifier in the plan says the name, the stage and the number of the job. -/
structure JobInstance.IsIdentifiedIn (job : JobInstance) (stageName : String) : Prop where
  jobName : job.plan.identifier.jobName = job.name
  stageName : job.plan.identifier.stageName = stageName
  buildId : job.plan.identifier.buildId = job.id

namespace JobInstance

variable {job next : JobInstance} {call : Call} {state : JobState} {time : Instant}

theorem SameRecord.refl (job : JobInstance) : job.SameRecord job :=
  ⟨rfl, rfl, rfl, [], (List.append_nil _).symm, fun _ h => absurd h List.not_mem_nil⟩

theorem sameRecord_moveTo (h : job.moveTo state time = .ok next) : job.SameRecord next := by
  obtain ⟨-, rfl⟩ := moveTo_eq_ok.mp h
  exact ⟨rfl, rfl, rfl, [.unsaved state time], rfl,
    fun t ht => by rw [List.mem_singleton.mp ht]; rfl⟩

theorem sameRecord_changeState (h : job.changeState state time = .ok next) :
    job.SameRecord next :=
  sameRecord_moveTo (changeState_eq_ok.mp h).2

theorem sameRecord_perform (hc : call.givesNumbers = false) (h : job.perform call = .ok next) :
    job.SameRecord next := by
  cases call with
  | changeState state time => exact sameRecord_changeState h
  | discontinue time =>
    have hmove : job.changeState .discontinued time = .ok next := h
    exact sameRecord_changeState hmove
  | reschedule time =>
    have hmove : job.changeState .rescheduled time = .ok next := h
    exact sameRecord_changeState hmove
  | assign agent time =>
    obtain ⟨moved, hm, rfl⟩ := Outcome.map_eq_ok.mp h
    obtain ⟨hn, hid, hp, ht⟩ := sameRecord_changeState hm
    exact ⟨hn, hid, hp, ht⟩
  | complete | cancel =>
    obtain ⟨moved, hm, rfl⟩ := Outcome.map_eq_ok.mp h
    obtain ⟨hn, hid, hp, ht⟩ := sameRecord_moveTo hm
    exact ⟨hn, hid, hp, ht⟩
  | preAssign | clearAgent | markAsRerun =>
    cases h
    exact ⟨rfl, rfl, rfl, (SameRecord.refl job).transitions⟩
  | setId | assignIds => cases hc

/-- A call leaves the record that the job is, whether it succeeds or fails. -/
theorem sameRecord_applied (job : JobInstance) (hc : call.givesNumbers = false) :
    job.SameRecord (job.applied call).2 := by
  rw [applied_eq]
  cases hp : job.perform call with
  | error failure => exact .refl job
  | ok next => exact sameRecord_perform hc hp

/-- A move is a call, whose outcome it is. -/
theorem GoesOn.eq_or_exists_call (h : job.GoesOn next) :
    next = job ∨ ∃ call : Call, call.givesNumbers = false ∧ next = (job.applied call).2 := by
  have hcall : ∀ call : Call, job.perform call = .ok next → next = (job.applied call).2 := by
    intro call hp
    rw [applied_eq, hp]
    rfl
  cases h with
  | rests => exact .inl rfl
  | @moves _ state time hm => exact .inr ⟨.changeState state time, rfl, hcall _ hm⟩
  | @assigned _ agent time hm => exact .inr ⟨.assign agent time, rfl, hcall _ hm⟩
  | @completes _ result time hm => exact .inr ⟨.complete result time, rfl, hcall _ hm⟩

theorem SameRecord.givenNumbers_eq (h : job.SameRecord next) :
    givenNumbers next.numbers = givenNumbers job.numbers := by
  obtain ⟨added, hadded, hunsaved⟩ := h.transitions
  have hnumbers : next.numbers = job.numbers ++ added.map (·.id.value) := by
    rw [numbers, numbers, h.id, hadded, List.map_append, List.cons_append]
  have hnone : givenNumbers (added.map (·.id.value)) = [] := by
    refine givenNumbers_eq_nil fun n hn => ?_
    obtain ⟨t, ht, rfl⟩ := List.mem_map.mp hn
    rw [hunsaved t ht]
    rfl
  rw [hnumbers, givenNumbers_append, hnone, List.append_nil]

theorem SameRecord.isIdentifiedIn {stageName : String} (h : job.SameRecord next)
    (hj : job.IsIdentifiedIn stageName) : next.IsIdentifiedIn stageName := by
  refine ⟨?_, ?_, ?_⟩
  all_goals rw [h.plan]
  · rw [hj.jobName, h.name]
  · exact hj.stageName
  · rw [hj.buildId, h.id]

/-- The identifier follows the number that a job is given. -/
theorem IsIdentifiedIn.save {stageName : String} (h : job.IsIdentifiedIn stageName) (next : Int) :
    (job.save next).1.IsIdentifiedIn stageName := by
  have htransitions : ∀ {job : JobInstance} (next : Int), job.IsIdentifiedIn stageName →
      (job.saveTransitions next).1.IsIdentifiedIn stageName := by
    intro job next hj
    unfold saveTransitions
    split
    · exact hj
    · exact ⟨hj.jobName, hj.stageName, hj.buildId⟩
  unfold JobInstance.save
  split
  · exact htransitions next h
  · exact htransitions (next + 1) ⟨h.jobName, h.stageName, rfl⟩

end JobInstance

theorem Stage.isIdentifiedIn_of_mem_saveJobs {stageName : String} : ∀ {js : List JobInstance}
    {next : Int}, (∀ j ∈ js, j.IsIdentifiedIn stageName) →
      ∀ j ∈ (saveJobs next js).1, j.IsIdentifiedIn stageName
  | [], _, _, _, hj => absurd hj List.not_mem_nil
  | k :: js, next, h, j, hj => by
    obtain ⟨hk, hjs⟩ := List.forall_mem_cons.mp h
    rw [saveJobs_cons, List.mem_cons] at hj
    rcases hj with rfl | hj
    · exact hk.save next
    · exact isIdentifiedIn_of_mem_saveJobs hjs j hj

/-! ### New stages -/

/-- No record of the stage has a number, and all its jobs are identified. -/
structure Stage.IsNew (stage : Stage) : Prop where
  unsaved : ∀ n ∈ stage.numbers, n = -1
  identified : ∀ j ∈ stage.jobs.members, j.IsIdentifiedIn stage.name

/-- A job without a number, whose transitions have none. -/
structure JobInstance.IsNewIn (job : JobInstance) (stageName : String) : Prop where
  id : job.id = .unsaved
  transitions : ∀ t ∈ job.transitions, t.id = .unsaved
  identified : job.IsIdentifiedIn stageName

theorem Stage.isNew_of_jobs {stage : Stage} (hid : stage.id = .unsaved)
    (h : ∀ j ∈ stage.jobs.members, j.IsNewIn stage.name) : stage.IsNew := by
  refine ⟨fun n hn => ?_, fun j hj => (h j hj).identified⟩
  rcases List.mem_cons.mp hn with rfl | hn
  · rw [hid]
    rfl
  · obtain ⟨j, hj, hn⟩ := List.mem_flatMap.mp hn
    rcases List.mem_cons.mp hn with rfl | hn
    · rw [(h j hj).id]
      rfl
    · obtain ⟨t, ht, rfl⟩ := List.mem_map.mp hn
      rw [(h j hj).transitions t ht]
      rfl

namespace Scheduling

variable {s : Scheduling} {config : StageConfig} {configVersion : String} {now : Instant}
  {stage : Stage}

/-- A job is identified when it is created, in the stage that its plan was made for. -/
theorem isNewIn_create {stageName name : String} {plan : JobPlan} {runType : RunType}
    (agent : Option AgentId) (hp : plan.identifier.stageName = stageName) :
    { JobInstance.create name plan runType now with agent }.IsNewIn stageName :=
  ⟨rfl, fun t ht => by rw [List.mem_singleton.mp ht]; rfl, rfl, hp, rfl⟩

theorem isNewIn_of_mem_expansion {stageName : String} {job : JobConfig} {j : JobInstance}
    (hj : j ∈ s.expansion stageName now job) : j.IsNewIn stageName := by
  cases expands_of_mem hj with
  | once _ => exact isNewIn_create none rfl
  | @onAgent _ agent _ _ _ => exact isNewIn_create (some agent.id) rfl
  | atIndex _ _ => exact isNewIn_create none rfl

theorem isNew_instantiate (h : s.instantiate config configVersion now = .ok stage) :
    stage.IsNew := by
  obtain ⟨-, -, rfl⟩ := instantiate_eq_ok.mp h
  refine Stage.isNew_of_jobs rfl fun j hj => ?_
  obtain ⟨_, _, hj⟩ := List.mem_flatMap.mp hj
  exact isNewIn_of_mem_expansion hj

end Scheduling

theorem RerunGroup.Renewal.isNewIn {g : RerunGroup} {old : Stage} {job : JobConfig}
    {s : Scheduling} {now : Instant} {fresh : List JobInstance} {j : JobInstance}
    (h : g.Renewal old job s now fresh) (hj : j ∈ fresh) : j.IsNewIn old.name := by
  cases h with
  | once =>
    rw [List.mem_singleton.mp hj]
    exact Scheduling.isNewIn_create none rfl
  | onSameAgent =>
    rw [List.mem_singleton.mp hj]
    exact Scheduling.isNewIn_create _ rfl
  | onFreeAgents =>
    obtain ⟨_, _, agent, _, rfl⟩ := mem_agentRow hj
    exact Scheduling.isNewIn_create (some agent.id) rfl
  | atIndices =>
    obtain ⟨_, _, rfl⟩ := List.mem_map.mp hj
    exact Scheduling.isNewIn_create none rfl

/-- What is kept of an instance gives up its numbers and stays identified. -/
theorem StageConfig.isNewIn_keep (config : StageConfig) {job : JobInstance} {stageName : String}
    (h : job.IsIdentifiedIn stageName) : (config.keep job).IsNewIn stageName := by
  obtain ⟨agent, hkeep⟩ := config.exists_keep_eq job
  rw [hkeep]
  refine ⟨rfl, fun t ht => ?_, h.jobName, h.stageName, rfl⟩
  obtain ⟨u, _, rfl⟩ := List.mem_map.mp ht
  rfl

theorem Scheduling.isNew_rerun {s : Scheduling} {old new : Stage} {request : List String}
    {config : StageConfig} {configVersion : String} {now : Instant}
    (hold : ∀ j ∈ old.jobs.members, j.IsIdentifiedIn old.name)
    (h : s.rerun old request config configVersion now = .ok new) : new.IsNew := by
  obtain ⟨-, -, rs, hrs, -, rfl⟩ := rerun_eq_ok.mp h
  refine Stage.isNew_of_jobs rfl fun j hj => ?_
  rcases mem_mergeReplacements hj with ⟨k, hk, _, rfl⟩ | ⟨r, hr, hj⟩
  · exact config.isNewIn_keep (hold k hk)
  · obtain ⟨g, _, made, fresh, _, hf, rfl⟩ := hrs.exists_group hr
    obtain ⟨c, hc, rfl⟩ := List.mem_map.mp hj
    obtain ⟨hid, ht, hi⟩ := hf.isNewIn hc
    exact ⟨hid, ht, hi.jobName, hi.stageName, hi.buildId⟩

/-! ### Archives -/

/-- The stages that were made so far, as they are now, and the next number. -/
structure Archive where
  stages : List Stage
  next : Int

/-- What happens to an archive. -/
inductive Archive.Step : Archive → Archive → Prop
  /-- A stage is instantiated. -/
  | instantiated {stages : List Stage} {next : Int} {s : Scheduling} {config : StageConfig}
      {configVersion : String} {now : Instant} {stage : Stage} :
      s.instantiate config configVersion now = .ok stage →
      Step ⟨stages, next⟩ ⟨stages ++ [stage], next⟩
  /-- One of the stages is rerun. -/
  | rerun {stages : List Stage} {next : Int} {s : Scheduling} {old new : Stage}
      {request : List String} {config : StageConfig} {configVersion : String} {now : Instant} :
      old ∈ stages → s.rerun old request config configVersion now = .ok new →
      Step ⟨stages, next⟩ ⟨stages ++ [new], next⟩
  /-- A job is called; the call may fail. -/
  | called {before after : List Stage} {stage : Stage} {earlier later : List JobInstance}
      {job : JobInstance} {call : JobInstance.Call} {next : Int} :
      stage.jobs.members = earlier ++ job :: later → call.givesNumbers = false →
      Step ⟨before ++ stage :: after, next⟩
        ⟨before ++ stage.withJobs (earlier ++ (job.applied call).2 :: later) :: after, next⟩
  /-- One of the stages is saved. -/
  | saved {before after : List Stage} {stage : Stage} {next : Int} :
      Step ⟨before ++ stage :: after, next⟩
        ⟨before ++ (stage.save next).1 :: after, (stage.save next).2⟩

/-- The records of the later stage that had a number in this one have the same number,
transitions apart. -/
structure Stage.KeepsNumbers (stage later : Stage) : Prop where
  id : stage.id.isSaved = true → later.id = stage.id
  jobs : List.Forall₂ (fun j k : JobInstance => j.id.isSaved = true → k.id = j.id)
    stage.jobs.members later.jobs.members

namespace Stage.KeepsNumbers

variable {a b c : Stage}

theorem refl (a : Stage) : a.KeepsNumbers a :=
  ⟨fun _ => rfl, List.forall₂_same.mpr fun _ _ _ => rfl⟩

theorem trans (hab : a.KeepsNumbers b) (hbc : b.KeepsNumbers c) : a.KeepsNumbers c := by
  refine ⟨fun h => ?_, Lists.forall₂_trans (fun j k l hjk hkl h => ?_) hab.jobs hbc.jobs⟩
  · have hb := hab.id h
    rw [hbc.id (hb ▸ h), hb]
  · have hk := hjk h
    rw [hkl (hk ▸ h), hk]

theorem save (stage : Stage) (next : Int) : stage.KeepsNumbers (stage.save next).1 := by
  refine ⟨fun h => ?_, keeps_saveJobs stage.jobs.members _⟩
  show (stage.id.save next).1 = stage.id
  rw [Id.save, if_pos h]
where
  keeps_saveJobs : ∀ (js : List JobInstance) (next : Int),
      List.Forall₂ (fun j k : JobInstance => j.id.isSaved = true → k.id = j.id) js
        (saveJobs next js).1
    | [], _ => .nil
    | j :: js, next => by
      refine .cons (fun h => ?_) (keeps_saveJobs js _)
      show (j.save next).1.id = j.id
      rw [(j.save_spec next).1, Id.save, if_pos h]

end Stage.KeepsNumbers

namespace Archive

/-- The numbers of all records. -/
def numbers (a : Archive) : List Int := a.stages.flatMap Stage.numbers

/-- What holds of an archive at all times. -/
structure InOrder (a : Archive) : Prop where
  nonneg : 0 ≤ a.next
  apart : Apart a.next a.numbers
  identified : ∀ stage ∈ a.stages, ∀ j ∈ stage.jobs.members, j.IsIdentifiedIn stage.name

variable {a b c : Archive}

/-- What the numbers of one stage are exchanged for counts only by what was given. -/
theorem givenNumbers_around {old new : Stage} (before after : List Stage)
    (h : givenNumbers new.numbers = givenNumbers old.numbers) :
    givenNumbers ((before ++ new :: after).flatMap Stage.numbers) =
      givenNumbers ((before ++ old :: after).flatMap Stage.numbers) := by
  simp only [List.flatMap_append, List.flatMap_cons, givenNumbers_append, h]

/-- A call of a job gives no number to a record of its stage. -/
theorem givenNumbers_called {stage : Stage} {earlier later : List JobInstance} {job : JobInstance}
    {call : JobInstance.Call} (hjobs : stage.jobs.members = earlier ++ job :: later)
    (hc : call.givesNumbers = false) :
    givenNumbers (stage.withJobs (earlier ++ (job.applied call).2 :: later)).numbers =
      givenNumbers stage.numbers := by
  have hjob := (job.sameRecord_applied hc).givenNumbers_eq
  have hall : givenNumbers ((earlier ++ (job.applied call).2 :: later).flatMap
      JobInstance.numbers) = givenNumbers (stage.jobs.members.flatMap JobInstance.numbers) := by
    simp only [hjobs, List.flatMap_append, List.flatMap_cons, givenNumbers_append, hjob]
  show givenNumbers ([stage.id.value] ++ _) = givenNumbers ([stage.id.value] ++ _)
  rw [givenNumbers_append, givenNumbers_append]
  exact congrArg (givenNumbers [stage.id.value] ++ ·) hall

theorem InOrder.add {stages : List Stage} {next : Int} {stage : Stage} (h : InOrder ⟨stages, next⟩)
    (hnew : stage.IsNew) : InOrder ⟨stages ++ [stage], next⟩ where
  nonneg := h.nonneg
  apart := by
    refine h.apart.of_given ?_
    have hnone : givenNumbers ([stage].flatMap Stage.numbers) = [] := by
      rw [List.flatMap_singleton]
      exact givenNumbers_eq_nil hnew.unsaved
    rw [numbers, List.flatMap_append, givenNumbers_append, hnone, List.append_nil]
    rfl
  identified := by
    refine List.forall_mem_append.mpr ⟨h.identified, fun added hadded => ?_⟩
    rw [List.mem_singleton.mp hadded]
    exact hnew.identified

theorem inOrder_empty {start : Int} (h0 : 0 ≤ start) : InOrder ⟨[], start⟩ where
  nonneg := h0
  apart := ⟨.nil, fun _ hn => absurd hn List.not_mem_nil⟩
  identified _ hs := absurd hs List.not_mem_nil

/-- One step leaves all numbers apart and all jobs identified. -/
theorem InOrder.step (h : a.InOrder) (hstep : Step a b) : b.InOrder := by
  cases hstep with
  | instantiated hi => exact h.add (Scheduling.isNew_instantiate hi)
  | rerun hold hr => exact h.add (Scheduling.isNew_rerun (h.identified _ hold) hr)
  | @called before after stage earlier later job call next hjobs hc =>
    obtain ⟨hbefore, hafter⟩ := List.forall_mem_append.mp h.identified
    obtain ⟨hstage, hafter⟩ := List.forall_mem_cons.mp hafter
    refine ⟨h.nonneg, h.apart.of_given
      (givenNumbers_around before after (givenNumbers_called hjobs hc)), ?_⟩
    refine List.forall_mem_append.mpr ⟨hbefore, List.forall_mem_cons.mpr ⟨?_, hafter⟩⟩
    rw [hjobs] at hstage
    obtain ⟨hearlier, hlater⟩ := List.forall_mem_append.mp hstage
    obtain ⟨hjob, hlater⟩ := List.forall_mem_cons.mp hlater
    exact List.forall_mem_append.mpr ⟨hearlier, List.forall_mem_cons.mpr
      ⟨(job.sameRecord_applied hc).isIdentifiedIn hjob, hlater⟩⟩
  | @saved before after stage next =>
    obtain ⟨hbefore, hafter⟩ := List.forall_mem_append.mp h.identified
    obtain ⟨hstage, hafter⟩ := List.forall_mem_cons.mp hafter
    refine ⟨Int.le_trans h.nonneg (stage.le_save next), ?_, ?_⟩
    · -- the stage is moved to the front, saved there, and moved back
      have hfront : ∀ stage : Stage, ((before ++ stage :: after).flatMap Stage.numbers).Perm
          (stage.numbers ++ (before ++ after).flatMap Stage.numbers) := fun stage => by
        rw [← List.flatMap_cons]
        exact List.perm_middle.flatMap_right _
      exact ((h.apart.perm (hfront stage)).saveStage h.nonneg).perm (hfront _).symm
    · exact List.forall_mem_append.mpr ⟨hbefore, List.forall_mem_cons.mpr
        ⟨Stage.isIdentifiedIn_of_mem_saveJobs hstage, hafter⟩⟩

theorem InOrder.run (h : a.InOrder) (hrun : Relation.ReflTransGen Step a b) : b.InOrder := by
  induction hrun with
  | refl => exact h
  | tail _ hstep ih => exact ih.step hstep

/-- The stages of this archive are the first ones of the later one, and their numbers
were kept. -/
def KeptIn (a b : Archive) : Prop :=
  ∃ kept made, b.stages = kept ++ made ∧ List.Forall₂ Stage.KeepsNumbers a.stages kept

theorem forall₂_keepsNumbers_refl (stages : List Stage) :
    List.Forall₂ Stage.KeepsNumbers stages stages :=
  List.forall₂_same.mpr fun stage _ => .refl stage

theorem keptIn_exchanged {before after : List Stage} {old new : Stage} {next later : Int}
    (h : old.KeepsNumbers new) :
    KeptIn ⟨before ++ old :: after, next⟩ ⟨before ++ new :: after, later⟩ :=
  ⟨before ++ new :: after, [], (List.append_nil _).symm,
    List.rel_append (forall₂_keepsNumbers_refl before) (.cons h (forall₂_keepsNumbers_refl after))⟩

theorem Step.keptIn (h : Step a b) : a.KeptIn b := by
  cases h with
  | instantiated | rerun => exact ⟨_, _, rfl, forall₂_keepsNumbers_refl _⟩
  | saved => exact keptIn_exchanged (.save _ _)
  | @called before after stage earlier later job call next hjobs hc =>
    refine keptIn_exchanged ⟨fun _ => rfl, ?_⟩
    rw [hjobs]
    exact List.rel_append (List.forall₂_same.mpr fun _ _ _ => rfl)
      (.cons (fun _ => (job.sameRecord_applied hc).id) (List.forall₂_same.mpr fun _ _ _ => rfl))

theorem KeptIn.trans (hab : a.KeptIn b) (hbc : b.KeptIn c) : a.KeptIn c := by
  obtain ⟨kept, made, hb, hkept⟩ := hab
  obtain ⟨kept', made', hc, hkept'⟩ := hbc
  rw [hb] at hkept'
  obtain ⟨first, rest, rfl, hfirst, -⟩ := Lists.forall₂_append_left hkept'
  exact ⟨first, rest ++ made', by rw [hc, List.append_assoc],
    Lists.forall₂_trans (fun _ _ _ => .trans) hkept hfirst⟩

theorem keptIn_of_run (h : Relation.ReflTransGen Step a b) : a.KeptIn b := by
  induction h with
  | refl => exact ⟨a.stages, [], (List.append_nil _).symm, forall₂_keepsNumbers_refl _⟩
  | tail _ hstep ih => exact ih.trans hstep.keptIn

/-! ### Stages whose jobs move -/

/-- Jobs move by one call after the other. -/
theorem run_goesOn (before after : List Stage) {stage later : Stage} (next : Int)
    (h : stage.GoesOn later) : Relation.ReflTransGen Step
      ⟨before ++ stage :: after, next⟩ ⟨before ++ later :: after, next⟩ := by
  obtain ⟨jobs, hjobs, rfl⟩ := h
  exact calls [] hjobs
where
  calls : ∀ (earlier : List JobInstance) {js ks : List JobInstance},
      List.Forall₂ JobInstance.GoesOn js ks → Relation.ReflTransGen Step
        ⟨before ++ stage.withJobs (earlier ++ js) :: after, next⟩
        ⟨before ++ stage.withJobs (earlier ++ ks) :: after, next⟩
    | _, _, _, .nil => .refl
    | earlier, j :: js, k :: ks, .cons hjk hrest => by
      have hcalled : Relation.ReflTransGen Step
          ⟨before ++ stage.withJobs (earlier ++ j :: js) :: after, next⟩
          ⟨before ++ stage.withJobs (earlier ++ k :: js) :: after, next⟩ := by
        rcases hjk.eq_or_exists_call with rfl | ⟨call, hc, rfl⟩
        · exact .refl
        · exact .single (.called rfl hc)
      have hthen := calls (earlier ++ [k]) hrest
      rw [List.append_assoc, List.append_assoc] at hthen
      exact hcalled.trans hthen

/-- A stage is completed by one call after the other. -/
theorem run_completeAll (before after : List Stage) (stage : Stage) (next : Int)
    (result : JobResult) (time : Instant) : Relation.ReflTransGen Step
      ⟨before ++ stage :: after, next⟩ ⟨before ++ stage.completeAll result time :: after, next⟩ :=
  run_goesOn before after next (stage.completeAll_endsAs result time).goesOn

/-- Identities are never confused. At every point of a run from an empty archive, no two
of the numbers that were given are equal, and the next one is beyond all of them. A stage
that is saved has only saved records, and to save it again at once does nothing. The
numbers of stages and jobs that were given stay. The identifier in the plan of every job
says its name, its stage and its number. -/
theorem identities {start : Int} (h0 : 0 ≤ start)
    (h : Relation.ReflTransGen Step ⟨[], start⟩ a) :
    ((givenNumbers a.numbers).Nodup ∧ ∀ n ∈ givenNumbers a.numbers, n < a.next) ∧
    (∀ stage ∈ a.stages, (stage.save a.next).1.IsSaved ∧
      (stage.save a.next).1.save (stage.save a.next).2 = stage.save a.next) ∧
    (∀ b, Relation.ReflTransGen Step a b → a.KeptIn b) ∧
    ∀ stage ∈ a.stages, ∀ j ∈ stage.jobs.members, j.IsIdentifiedIn stage.name := by
  have horder := (inOrder_empty h0).run h
  refine ⟨⟨horder.apart.nodup, horder.apart.below⟩, fun stage _ => ?_,
    fun b hb => keptIn_of_run hb, horder.identified⟩
  have hsaved := stage.isSaved_save horder.nonneg
  exact ⟨hsaved, Stage.save_of_isSaved hsaved _⟩

/-- A stage is saved before and after its jobs ran, and its rerun is saved after it. -/
theorem identities_twoRuns : ∃ a : Archive, Relation.ReflTransGen Step ⟨[], 0⟩ a ∧
    a.stages.length = 2 ∧ (givenNumbers a.numbers).length = 19 ∧ a.next = 22 ∧
      (givenNumbers a.numbers).Nodup ∧ ∀ n ∈ givenNumbers a.numbers, n < a.next := by
  let first := onTwoAgents.save 0
  let done := (first.1.completeAll .passed ⟨1, 0⟩).save first.2
  have hruns : (do
      let second ← twoAgents.rerun done.1 ["b"] agentsAndOnce "2" ⟨2, 0⟩
      let archive : Archive := ⟨[done.1, (second.save done.2).1], (second.save done.2).2⟩
      .ok (decide ((givenNumbers archive.numbers).length = 19 ∧ archive.next = 22)) :
        Except Failure Bool) = .ok true := by
    decide +kernel
  obtain ⟨second, hsecond, hnumbers⟩ := Outcome.bind_eq_ok.mp hruns
  obtain ⟨hlength, hnext⟩ := of_decide_eq_true (Except.ok.inj hnumbers)
  have hsaved : Relation.ReflTransGen Step ⟨[], 0⟩ ⟨[first.1], first.2⟩ :=
    .tail (.single (.instantiated instantiate_agentsAndOnce)) (@Step.saved [] [] onTwoAgents 0)
  have hdone : Relation.ReflTransGen Step ⟨[], 0⟩ ⟨[done.1], done.2⟩ :=
    (hsaved.trans (run_completeAll [] [] first.1 first.2 .passed ⟨1, 0⟩)).tail
      (@Step.saved [] [] _ _)
  have hrun := (hdone.tail (.rerun List.mem_cons_self hsecond)).tail
    (@Step.saved [done.1] [] second done.2)
  obtain ⟨hnodup, hbelow⟩ := (identities (Int.le_refl 0) hrun).1
  exact ⟨_, hrun, rfl, hlength, hnext, hnodup, hbelow⟩

end Archive
end StageRuns
