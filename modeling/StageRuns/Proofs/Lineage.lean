/-
# Where copies come from

A lineage is a chain of stages in which each is a rerun of the one before. That one
had ended and was saved, with numbers from one counter for all stages. However
many reruns there were, a copy in the present stage points to exactly one job of
all earlier stages; this job is no copy, the present one carries its outcome, and
all stages in between hold copies of it as well (`Stage.Lineage.exists_original`).

What carries this through is that a copy has ended, so that no move changes it
(`JobInstance.GoesOn.eq_of_ended`), that a copy of a copy points to where the first
one points, and that no number is given twice: the stages of a lineage are those of an
archive (`Stage.Lineage.inOrder`).

Key definitions: `Stage.Lineage`, `JobInstance.ComesFrom`, `Stage.Rooted`.
Key theorems: `Stage.Lineage.inOrder`, `Stage.Lineage.round`, `Stage.Lineage.rooted`,
`Stage.Lineage.exists_original`.
-/
import StageRuns.Proofs.Archive

namespace StageRuns

/-! ### Lineages -/

/-- The stages that were rerun one after the other, the last one first, the
present stage, and the next number. -/
inductive Stage.Lineage : List Stage → Stage → Int → Prop
  /-- The first stage is instantiated. -/
  | start {s : Scheduling} {config : StageConfig} {configVersion : String} {now : Instant}
      {stage : Stage} {next : Int} : s.instantiate config configVersion now = .ok stage →
      0 ≤ next → Lineage [] stage next
  /-- Jobs of the present stage move. -/
  | goesOn {past : List Stage} {stage later : Stage} {next : Int} : Lineage past stage next →
      stage.GoesOn later → Lineage past later next
  /-- The present stage is saved. -/
  | saved {past : List Stage} {stage : Stage} {next : Int} : Lineage past stage next →
      Lineage past (stage.save next).1 (stage.save next).2
  /-- The present stage, whose jobs are saved, is rerun. -/
  | rerun {past : List Stage} {old new : Stage} {next : Int} {s : Scheduling}
      {config : StageConfig} {request : List String} {configVersion : String} {now : Instant} :
      Lineage past old next → (∀ j ∈ old.jobs.members, j.id.isSaved = true) →
      s.rerun old request config configVersion now = .ok new → Lineage (old :: past) new next

/-- The instance carries the outcome of the job of a number. The job is in an
earlier stage and no copy, and the stages since then hold copies of it. -/
def JobInstance.ComesFrom (copy : JobInstance) (past : List Stage) (id : JobId) : Prop :=
  ∃ later source before original, past = later ++ source :: before ∧
    original ∈ source.jobs.members ∧ original.id = id ∧ original.isCopy = false ∧
      original.SameOutcome copy ∧
        ∀ stage ∈ later, ∃ c ∈ stage.jobs.members, c.origin = .copy id

/-- What all stages of a lineage have in common. -/
structure Stage.Rooted (past : List Stage) (stage : Stage) : Prop where
  saved : ∀ old ∈ past, ∀ j ∈ old.jobs.members, j.id.isSaved = true
  copies : ∀ j ∈ stage.jobs.members, ∀ id, j.origin = .copy id →
    j.isActive = false ∧ j.ComesFrom past id
  counter : stage.counter = 1 + past.length
  first : past = [] → stage.rerunOfCounter = none
  rerun : past ≠ [] → stage.rerunOfCounter = some 1

variable {past : List Stage} {stage : Stage} {next : Int} {id : JobId}

theorem JobInstance.ComesFrom.of_sameOutcome {a b : JobInstance} (h : a.ComesFrom past id)
    (hab : a.SameOutcome b) : b.ComesFrom past id := by
  obtain ⟨later, source, before, original, hpast, hin, hid, hno, hout, hlater⟩ := h
  exact ⟨later, source, before, original, hpast, hin, hid, hno, hout.trans hab, hlater⟩

namespace Stage

/-! ### Steps -/

theorem rooted_instantiate {s : Scheduling} {config : StageConfig} {configVersion : String}
    {now : Instant} (h : s.instantiate config configVersion now = .ok stage) :
    Rooted [] stage := by
  obtain ⟨-, -, rfl⟩ := Scheduling.instantiate_eq_ok.mp h
  refine ⟨fun _ h => absurd h List.not_mem_nil, fun j hj id ho => ?_, rfl, fun _ => rfl,
    fun h => absurd rfl h⟩
  obtain ⟨_, _, hj⟩ := List.mem_flatMap.mp hj
  obtain ⟨_, _, _, _, rfl⟩ := Scheduling.exists_create hj
  cases ho

namespace Rooted

theorem goesOn {later : Stage} (h : Rooted past stage) (hg : stage.GoesOn later) :
    Rooted past later := by
  obtain ⟨jobs, hjobs, rfl⟩ := hg
  refine ⟨h.saved, fun j hj id ho => ?_, h.counter, h.first, h.rerun⟩
  obtain ⟨k, hk, hkj⟩ := Lists.exists_left hjobs hj
  have hcopy := h.copies k hk id (hkj.origin_eq.symm.trans ho)
  rw [hkj.eq_of_ended hcopy.1]
  exact hcopy

theorem save (h : Rooted past stage) (next : Int) : Rooted past (stage.save next).1 := by
  refine ⟨h.saved, fun j hj id ho => ?_, h.counter, h.first, h.rerun⟩
  obtain ⟨k, hk, hkj⟩ := Lists.exists_left (stage.forall₂_save next) hj
  obtain ⟨hend, hfrom⟩ := h.copies k hk id (hkj.origin.symm.trans ho)
  refine ⟨?_, hfrom.of_sameOutcome hkj.outcome⟩
  rw [JobInstance.isActive, hkj.outcome.state]
  exact hend

/-- What stays of an instance comes from it, or from where it comes. -/
theorem comesFrom_keep {config : StageConfig} (h : Rooted past stage)
    {k : JobInstance} (hk : k ∈ stage.jobs.members) (ho : (config.keep k).origin = .copy id) :
    (config.keep k).ComesFrom (stage :: past) id := by
  have hcopy := config.isCopyOf_keep k
  cases hc : k.isCopy with
  | false =>
    rw [hcopy.sourceOfOriginal hc] at ho
    cases ho
    exact ⟨[], stage, past, k, rfl, hk, rfl, hc, hcopy.sameOutcome,
      fun _ h => absurd h List.not_mem_nil⟩
  | true =>
    obtain ⟨number, hk'⟩ := JobInstance.isCopy_iff.mp hc
    rw [hcopy.source number hk'] at ho
    cases ho
    obtain ⟨-, later, source, before, original, rfl, hin, hid, hno, hout, hlater⟩ :=
      h.copies k hk id hk'
    exact ⟨stage :: later, source, before, original, rfl, hin, hid, hno,
      hout.trans hcopy.sameOutcome, List.forall_mem_cons.mpr ⟨⟨k, hk, hk'⟩, hlater⟩⟩

theorem rerunOf {old new : Stage} {s : Scheduling} {config : StageConfig} {request : List String}
    {configVersion : String} {now : Instant} (h : Rooted past old)
    (hsaved : ∀ j ∈ old.jobs.members, j.id.isSaved = true)
    (hr : s.rerun old request config configVersion now = .ok new) :
    Rooted (old :: past) new := by
  obtain ⟨hend, -, rs, hrs, -, rfl⟩ := Scheduling.rerun_eq_ok.mp hr
  refine ⟨List.forall_mem_cons.mpr ⟨hsaved, h.saved⟩, fun j hj id ho => ?_, ?_, nofun, fun _ => ?_⟩
  · rcases mem_mergeReplacements hj with ⟨k, hk, _, rfl⟩ | ⟨r, hr, hj⟩
    · refine ⟨?_, h.comesFrom_keep hk ho⟩
      have hk' := List.all_eq_true.mp hend k hk
      rw [Bool.not_eq_true'] at hk'
      rw [JobInstance.isActive, (config.isCopyOf_keep k).state]
      exact hk'
    · obtain ⟨g, _, hg⟩ := hrs.exists_group hr
      rw [(hg.scheduledAt hj).origin] at ho
      cases ho
  · show old.counter + 1 = 1 + (past.length + 1)
    rw [h.counter, Nat.add_assoc]
  · show some (old.rerunOfCounter.getD old.counter) = some 1
    by_cases hp : past = []
    · rw [h.first hp, h.counter, hp]
      rfl
    · rw [h.rerun hp]
      rfl

end Rooted

/-! ### Runs -/

namespace Lineage

/-- The stages of a lineage are an archive, the first one first. -/
theorem inOrder (h : Lineage past stage next) :
    Archive.InOrder ⟨past.reverse ++ [stage], next⟩ := by
  induction h with
  | start hi hn => exact (Archive.inOrder_empty hn).step (.instantiated hi)
  | @goesOn past stage later next _ hg ih =>
    exact ih.run (Archive.run_goesOn past.reverse [] next hg)
  | saved _ ih => exact ih.step .saved
  | rerun _ _ hr ih =>
    rw [List.reverse_cons]
    exact ih.step (.rerun (List.mem_append_right _ List.mem_cons_self) hr)

theorem rooted (h : Lineage past stage next) : Rooted past stage := by
  induction h with
  | start hi _ => exact rooted_instantiate hi
  | goesOn _ hg ih => exact ih.goesOn hg
  | saved _ ih => exact ih.save _
  | rerun _ hs hr ih => exact ih.rerunOf hs hr

/-- The jobs of all earlier stages have numbers of their own. -/
theorem nodup_jobIds (h : Lineage past stage next) : (past.flatMap Stage.jobIds).Nodup := by
  have hpast : (past.reverse ++ [stage]).Perm (stage :: past) :=
    List.perm_append_comm.trans (past.reverse_perm.cons stage)
  have hapart := h.inOrder.apart.perm (hpast.flatMap_right Stage.numbers)
  have hsub : (past.flatMap Stage.numbers).Sublist ((stage :: past).flatMap Stage.numbers) :=
    List.sublist_append_right _ _
  exact (hapart.sublist hsub).nodup_jobIds h.rooted.saved

/-- A round: the jobs of the present stage end, it is saved and rerun. -/
theorem round {done new : Stage} {s : Scheduling} {config : StageConfig} {request : List String}
    {configVersion : String} {now : Instant} (h : Lineage past stage next)
    (hd : stage.EndsAs done)
    (hr : s.rerun (done.save next).1 request config configVersion now = .ok new) :
    Lineage ((done.save next).1 :: past) new (done.save next).2 := by
  have hsaved := done.isSaved_save h.inOrder.nonneg
  exact .rerun (.saved (.goesOn h hd.goesOn)) (fun j hj => (hsaved.jobs j hj).id) hr

/-- Stages of a lineage are counted from 1, and all reruns point to the first one.
A copy points to exactly one job, in exactly one earlier stage. This job is no
copy, the copy carries its outcome, and so do copies in all stages between. -/
theorem exists_original (h : Lineage past stage next) :
    stage.counter = 1 + past.length ∧ (past = [] → stage.rerunOfCounter = none) ∧
    (past ≠ [] → stage.rerunOfCounter = some 1) ∧
    ∀ copy ∈ stage.jobs.members, ∀ id, copy.origin = .copy id →
      ∃ later source before original, past = later ++ source :: before ∧
        source.jobs.members.filter (fun j => j.id = id) = [original] ∧
        (∀ other ∈ later ++ before, ∀ j ∈ other.jobs.members, j.id ≠ id) ∧
        (original.origin = .scheduled ∨ original.origin = .rerun) ∧
        original.SameOutcome copy ∧
        ∀ between ∈ later, ∃ c ∈ between.jobs.members, c.origin = .copy id := by
  have hroot := h.rooted
  refine ⟨hroot.counter, hroot.first, hroot.rerun, fun copy hcopy id ho => ?_⟩
  obtain ⟨-, later, source, before, original, rfl, hin, rfl, hno, hout, hlater⟩ :=
    hroot.copies copy hcopy id ho
  have hdiffer := h.nodup_jobIds
  rw [List.flatMap_append, List.flatMap_cons, List.nodup_append, List.nodup_append] at hdiffer
  obtain ⟨-, ⟨hsource, -, hbefore⟩, hlaters⟩ := hdiffer
  have hid : original.id ∈ source.jobIds := List.mem_map_of_mem hin
  refine ⟨later, source, before, original, rfl, ?_, fun other hother j hj he => ?_, ?_, hout,
    hlater⟩
  · refine Lists.filter_eq_singleton hin (decide_eq_true rfl) ?_
    rw [jobIds, List.nodup_iff_pairwise_ne, List.pairwise_map] at hsource
    refine hsource.imp fun {a b} hab ha => ?_
    rw [decide_eq_true_iff] at ha
    rw [decide_eq_false_iff_not, ← ha]
    exact fun hb => hab hb.symm
  · have hj' : j.id ∈ other.jobIds := List.mem_map_of_mem hj
    rcases List.mem_append.mp hother with hother | hother
    · exact hlaters j.id (List.mem_flatMap.mpr ⟨other, hother, hj'⟩) original.id
        (List.mem_append_left _ hid) he
    · exact hbefore original.id hid j.id (List.mem_flatMap.mpr ⟨other, hother, hj'⟩) he.symm
  · cases hor : original.origin with
    | scheduled => exact .inl rfl
    | rerun => exact .inr rfl
    | copy first =>
      rw [JobInstance.isCopy_iff.mpr ⟨first, hor⟩] at hno
      cases hno

/-- After job `b` was run again twice, the third stage holds a copy of the instance
of job `a` that has the number 1. -/
theorem exists_original_thirdRun : ∃ past stage next, Lineage past stage next ∧
    past.length = 2 ∧ stage.counter = 3 ∧ stage.rerunOfCounter = some 1 ∧
      ∃ copy ∈ stage.jobs.members, copy.origin = .copy ⟨1⟩ ∧
        ∃ source ∈ past, ∃ original,
          source.jobs.members.filter (fun j => j.id = ⟨1⟩) = [original] ∧
            original.SameOutcome copy := by
  have hruns : (do
      let done := passedOnTwoAgents.save 0
      let second ← twoAgents.rerun done.1 ["b"] agentsAndOnce "2" ⟨2, 0⟩
      let again := (second.completeAll .passed ⟨3, 0⟩).save done.2
      let third ← twoAgents.rerun again.1 ["b"] agentsAndOnce "3" ⟨4, 0⟩
      .ok (decide (∃ copy ∈ third.jobs.members, copy.origin = .copy ⟨1⟩)) : Except Failure Bool) =
        .ok true := by
    decide +kernel
  obtain ⟨second, hsecond, hruns⟩ := Outcome.bind_eq_ok.mp hruns
  obtain ⟨third, hthird, hcopy⟩ := Outcome.bind_eq_ok.mp hruns
  obtain ⟨copy, hin, ho⟩ := of_decide_eq_true (Except.ok.inj hcopy)
  have hstart : Lineage [] onTwoAgents 0 := .start instantiate_agentsAndOnce (Int.le_refl 0)
  have hlineage := (hstart.round (onTwoAgents.completeAll_endsAs _ _) hsecond).round
    (second.completeAll_endsAs _ _) hthird
  obtain ⟨hcounter, -, hrerun, hall⟩ := exists_original hlineage
  obtain ⟨later, source, before, original, hpast, hfilter, -, -, hout, -⟩ := hall copy hin _ ho
  have hsource : source ∈ later ++ source :: before := List.mem_append_right _ List.mem_cons_self
  exact ⟨_, third, _, hlineage, rfl, hcounter, hrerun (List.cons_ne_nil _ _), copy, hin, ho,
    source, hpast ▸ hsource, original, hfilter, hout⟩

end Lineage
end Stage
end StageRuns
