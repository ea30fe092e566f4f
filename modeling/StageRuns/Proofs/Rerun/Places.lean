/-
# What stands in the place of each old instance

A rerun goes through the old instances in their order, and what it lays down for one of them
depends on that instance and its job alone (`Stage.Gives`): a copy, all new instances of a
job for all agents, nothing if these stand in an earlier place, or one new instance.

A selected instance gets the new instance of its rank among the selected ones of its job.
That is the right one, as the new instances of a job are in the order of the selected
ones (`RerunGroup.getElem?_members`, `RerunGroup.ReplacedBy.gives_piece`).

This is so if the selected instances of a job have the same run type
(`Stage.SelectsAlike`). The first of them decides how the others are made anew.

Key definitions: `Stage.SelectsAlike`, `Stage.Gives`.
Key theorems: `RerunGroup.getElem?_members`, `RerunGroup.leads_iff`,
`RerunGroup.ReplacedBy.gives_piece`, `Scheduling.rerun_gives`.
-/
import StageRuns.Proofs.Rerun.Refusal

namespace StageRuns

/-- The selected instances of a job have the same run type. -/
def Stage.SelectsAlike (old : Stage) (request : List String) : Prop :=
  ∀ j ∈ old.jobs.members, ∀ k ∈ old.jobs.members, old.Selects request j →
    old.Selects request k → j.isSibling k = true → j.runType = k.runType

instance (old : Stage) (request : List String) : Decidable (old.SelectsAlike request) :=
  inferInstanceAs (Decidable (∀ j ∈ old.jobs.members, ∀ k ∈ old.jobs.members, _))

/-- What stands in the new stage in the place of an old instance. -/
inductive Stage.Gives (old : Stage) (request : List String) (config : StageConfig)
    (s : Scheduling) (now : Instant) (j : JobInstance) : List JobInstance → Prop
  /-- An instance that is not selected is copied. -/
  | copy {c : JobInstance} : ¬ old.Selects request j → c.IsCopyOf j config →
      Gives old request config s now j [c]
  /-- A job that ran on all agents and runs on them now has all its new instances in the
  place of the first selected one, -/
  | block {job : JobConfig} : old.Selects request j → config.job? j.baseName = some job →
      j.runType = .runOnAllAgents → job.runType = .runOnAllAgents → old.Leads request j →
      Gives old request config s now j
        ((agentRow j.baseName ((s.forRerun config).jobPlan old.name job) now
          (old.topIndex j.baseName)
          (old.agentsLeft request j.baseName (s.matching job.resources))).map
            JobInstance.markAsRerun)
  /-- and nothing in the places of the others. -/
  | nothing {job : JobConfig} : old.Selects request j → config.job? j.baseName = some job →
      j.runType = .runOnAllAgents → job.runType = .runOnAllAgents → ¬ old.Leads request j →
      Gives old request config s now j []
  /-- A job that ran once runs once, under the old name. -/
  | once {job : JobConfig} : old.Selects request j → config.job? j.baseName = some job →
      j.runType = .single → job.runType = .single →
      Gives old request config s now j
        [(singleInstance j.name ((s.forRerun config).jobPlan old.name job) now).markAsRerun]
  /-- A job that ran on all agents and runs once now does so on the same agent, under its
  own name. -/
  | onSameAgent {job : JobConfig} : old.Selects request j →
      config.job? j.baseName = some job → j.runType = .runOnAllAgents → job.runType = .single →
      Gives old request config s now j
        [{ singleInstance j.baseName ((s.forRerun config).jobPlan old.name job) now with
            agent := j.agent }.markAsRerun]
  /-- A job that ran a number of times runs again at the index that the old name tells. -/
  | atIndex {job : JobConfig} {base : String} {c : JobInstance} : old.Selects request j →
      config.job? j.baseName = some job → j.runType = .runMultipleInstance →
      job.runType = .runMultipleInstance → Text.sameName base j.baseName = true →
      c = (runInstance base ((s.forRerun config).jobPlan old.name job) (j.index?.getD 1)
        (job.runInstanceCount.getD 1) now).markAsRerun →
      (∀ k, j.index? = some k →
        Text.sameName c.baseName j.baseName = true ∧ c.index? = some k) →
      Gives old request config s now j [c]

variable {old : Stage} {request : List String} {config : StageConfig} {s : Scheduling}
  {now : Instant} {g : RerunGroup} {r : Replacement} {rs : List Replacement} {j : JobInstance}
  {rank : Nat}

/-! ### The rank of a selected instance -/

namespace RerunGroup

/-- The selected instances of the job that stand before an instance tell its rank in the
group. -/
theorem getElem?_members {before after : List JobInstance} (hg : g ∈ old.groups request)
    (hsplit : old.jobs.members = before ++ j :: after) (hs : old.selects request j = true)
    (hsib : g.first.isSibling j = true) :
    g.members[(before.filter (old.selects request)).countP j.isSibling]? = some j := by
  have hcongr : g.first.isSibling = j.isSibling := funext (JobInstance.isSibling_congr hsib)
  have hself : j.isSibling j = true := j.isSibling_self
  have hmembers : g.members =
      (before.filter (old.selects request)).filter j.isSibling ++
        j :: (after.filter (old.selects request)).filter j.isSibling := by
    rw [members_eq_filter hg, Stage.selected, hsplit, hcongr]
    simp [hs, hself]
  rw [hmembers, List.countP_eq_length_filter, List.getElem?_append_right (Nat.le_refl _)]
  simp

/-- A group of an instance that ran once has no other members: they would have the same
name. -/
theorem others_eq_nil (hdiffer : NamesDiffer old.jobs.members)
    (halike : old.SelectsAlike request) (hg : g ∈ old.groups request)
    (hf : g.first.runType = .single) : g.others = [] := by
  rw [List.eq_nil_iff_forall_not_mem]
  intro k hk
  obtain ⟨⟨hin, hsel⟩, hsib⟩ :=
    (Stage.mem_members_of_mem_groups hg).mp (List.mem_cons_of_mem g.first hk)
  have hrun : g.first.runType = k.runType := halike g.first (Stage.first_mem_of_mem_groups hg) k
    hin (Stage.selects_first hg) ((Stage.selects_iff hin).mp hsel) hsib
  have hname : g.first.NameDiffers k :=
    (List.pairwise_cons.mp (Stage.namesDiffer_of_mem_groups hg hdiffer)).1 k hk
  rw [JobInstance.isSibling, JobInstance.baseName_of_single hf,
    JobInstance.baseName_of_single (hrun.symm.trans hf)] at hsib
  rw [JobInstance.NameDiffers, hsib] at hname
  cases hname

/-- A selected instance is the first one of its job exactly if its rank is 0. -/
theorem leads_iff (hdiffer : NamesDiffer old.jobs.members) (hg : g ∈ old.groups request)
    (hsib : g.first.isSibling j = true) (hrank : g.members[rank]? = some j) :
    old.Leads request j ↔ rank = 0 := by
  rw [JobInstance.isSibling, Text.sameName_comm] at hsib
  rw [Stage.Leads, Stage.selectedOf_eq_members hg hsib, List.head?_eq_getElem?, ← hrank]
  have hnodup : g.members.Nodup :=
    (Stage.namesDiffer_of_mem_groups hg hdiffer).imp fun {a b} hab he => by
      rw [JobInstance.NameDiffers, he, Text.sameName_self] at hab
      cases hab
  constructor
  · intro h
    have hpos : 0 < g.members.length := Nat.succ_pos _
    exact ((List.getElem?_inj hpos hnodup).mp h).symm
  · rintro rfl
    rfl

end RerunGroup

theorem ReplacedGroups.pieceFor_eq (hrs : ReplacedGroups old request config s now rs)
    (hr : r ∈ rs) (hgr : g.ReplacedBy old config s now r) (hsib : g.first.isSibling j = true)
    (earlier : List JobInstance) :
    pieceFor rs earlier j = r.piece (earlier.countP j.isSibling) := by
  have hcovers : r.covers j = true := by
    rw [Replacement.covers, hgr.base_eq]
    exact hsib
  rw [pieceFor, find?_covers hcovers hr hrs.pairwise_base]

/-! ### The pieces -/

/-- A new instance of a number knows the job and the index of the old one, if that was
named by index. -/
theorem JobInstance.parts_runInstance {base : String} {plan : JobPlan} {count k : Nat}
    (hb : Text.sameName base j.baseName = true) (hindex : j.index? = some k) :
    Text.sameName (runInstance base plan (j.index?.getD 1) count now).markAsRerun.baseName
        j.baseName = true ∧
      (runInstance base plan (j.index?.getD 1) count now).markAsRerun.index? = some k := by
  have hbase : base ≠ "" := by
    rintro rfl
    rw [Text.sameName_comm] at hb
    exact baseName_ne_empty hindex (Text.eq_empty_of_sameName hb)
  have hlt : j.index?.getD 1 < InstanceName.indexLimit := j.index?_getD_lt
  obtain ⟨hname, hi⟩ : (runInstance base plan (j.index?.getD 1) count now).markAsRerun.baseName =
      base ∧ _ := baseName_of_name hbase nofun rfl hlt
  rw [hname, hi, hindex]
  exact ⟨hb, rfl⟩

theorem RerunGroup.eq_of_others_eq_nil (ho : g.others = [])
    (hrank : g.members[rank]? = some j) : rank = 0 ∧ g.first = j := by
  rw [members, ho] at hrank
  cases rank with
  | zero => exact ⟨rfl, Option.some.inj hrank⟩
  | succ n => simp at hrank

/-- The piece of a selected instance is what it gives to the new stage. -/
theorem RerunGroup.ReplacedBy.gives_piece (hgr : g.ReplacedBy old config s now r)
    (hdiffer : NamesDiffer old.jobs.members) (halike : old.SelectsAlike request)
    (hg : g ∈ old.groups request) (hj : j ∈ old.jobs.members)
    (hs : old.selects request j = true) (hsib : g.first.isSibling j = true)
    (hrank : g.members[rank]? = some j) :
    old.Gives request config s now j (r.piece rank) := by
  have hsel : old.Selects request j := (Stage.selects_iff hj).mp hs
  have hleads := leads_iff hdiffer hg hsib hrank
  have hrun : g.first.runType = j.runType :=
    halike g.first (Stage.first_mem_of_mem_groups hg) j hj (Stage.selects_first hg) hsel hsib
  obtain ⟨job, fresh, hc, hf, rfl⟩ := hgr
  have hcj : config.job? j.baseName = some job := by rwa [← config.job?_congr hsib]
  cases hf with
  | once ht hr =>
    obtain ⟨rfl, rfl⟩ := eq_of_others_eq_nil (others_eq_nil hdiffer halike hg ht) hrank
    have hname : g.base = g.first.name := JobInstance.baseName_of_single ht
    rw [hname, ht]
    exact .once hsel hcj ht hr
  | onSameAgent ht hr ho =>
    obtain ⟨rfl, rfl⟩ := eq_of_others_eq_nil ho hrank
    rw [ht, hr]
    exact .onSameAgent hsel hcj ht hr
  | onFreeAgents ht hr =>
    have hself : Text.sameName g.base g.base = true := Text.sameName_self _
    rw [highestIndex_eq hself, freeAgents_eq hg hself, ht, hr]
    by_cases hzero : rank = 0
    · -- the first selected instance of the job gets the block
      subst hzero
      have hj : g.first = j := Option.some.inj hrank
      subst hj
      exact .block hsel hcj ht hr (hleads.mpr rfl)
    · rw [Replacement.piece_eq_nil rfl hzero]
      exact .nothing hsel hcj (hrun.symm.trans ht) hr fun h => hzero (hleads.mp h)
  | atIndices ht hr =>
    rw [ht, Replacement.piece_eq_toList rfl, List.getElem?_map, List.getElem?_map, hrank]
    exact .atIndex hsel hcj (hrun.symm.trans ht) hr hsib rfl fun _ =>
      JobInstance.parts_runInstance hsib

/-- A rerun of a stage in which the selected instances of a job have the same run type lays
down, for each old instance in its order, what that instance gives. The names of the old
instances differ, as adding them to the jobs of a stage sees to. -/
theorem Scheduling.rerun_gives {configVersion : String} {new : Stage}
    (hdiffer : NamesDiffer old.jobs.members) (halike : old.SelectsAlike request)
    (h : s.rerun old request config configVersion now = .ok new) :
    ∃ pieces : List (List JobInstance), new.jobs.members = pieces.flatten ∧
      List.Forall₂ (old.Gives request config s now) old.jobs.members pieces := by
  obtain ⟨-, -, rs, hrs, -, rfl⟩ := rerun_eq_ok.mp h
  refine exists_pieces (fun j hj hs => ?_) fun before j after hsplit hs => ?_
  · exact .copy ((Stage.selects_eq_false_iff hj).mp hs) (config.isCopyOf_keep j)
  · have hj : j ∈ old.jobs.members := by rw [hsplit]; simp
    obtain ⟨g, hg, hsib⟩ := Stage.exists_group_of_selects hj ((Stage.selects_iff hj).mp hs)
    obtain ⟨r, hr, hgr⟩ := hrs.exists_replacement hg
    rw [hrs.pieceFor_eq hr hgr hsib, List.append_nil, List.countP_reverse]
    exact hgr.gives_piece hdiffer halike hg hj hs hsib (g.getElem?_members hg hsplit hs hsib)

/-- On two agents, job `a` is run again on both and job `b` once more. -/
theorem Scheduling.rerun_gives_passedOnTwoAgents :
    NamesDiffer passedOnTwoAgents.jobs.members ∧ passedOnTwoAgents.SelectsAlike ["A", "b"] ∧
      ∃ new, twoAgents.rerun passedOnTwoAgents ["A", "b"] agentsAndOnce "2" ⟨2, 0⟩ = .ok new ∧
        ∃ pieces : List (List JobInstance), new.jobs.members = pieces.flatten ∧
          List.Forall₂ (passedOnTwoAgents.Gives ["A", "b"] agentsAndOnce twoAgents ⟨2, 0⟩)
            passedOnTwoAgents.jobs.members pieces := by
  have hdiffer : NamesDiffer passedOnTwoAgents.jobs.members := by decide +kernel
  have halike : passedOnTwoAgents.SelectsAlike ["A", "b"] := by decide +kernel
  obtain ⟨new, hnew⟩ : ∃ new,
      twoAgents.rerun passedOnTwoAgents ["A", "b"] agentsAndOnce "2" ⟨2, 0⟩ = .ok new :=
    Outcome.exists_of_isOk (by decide +kernel)
  exact ⟨hdiffer, halike, new, hnew, rerun_gives hdiffer halike hnew⟩

end StageRuns
