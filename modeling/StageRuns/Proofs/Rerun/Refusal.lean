/-
# Why a rerun is refused

A rerun is refused for one of five reasons, and the first that applies decides
the failure: a job goes on, nothing is requested, a name is unknown, the
selected instances of a job cannot be made anew, or two instances of the new
stage have the same name (`Scheduling.Refuses`). For the selected instances of
one job there are five reasons again (`Stage.RefusesJob`), and of several jobs
the one decides whose first selected instance comes first.

Indices and counters have 32 bits. Those that a rerun counts must not go beyond
(`Scheduling.CountsFit`): an index for each agent that a job is given, job by job
until one is refused, and the counter of the new stage. Then there is no other
failure, and all that was counted has 32 bits (`Scheduling.rerun_eq_error_iff`).

Key definitions: `Stage.Leads`, `Stage.RefusesJob`, `Scheduling.Refuses`,
`Scheduling.Reaches`, `Scheduling.CountsFit`.
Key theorems: `RerunGroup.replacement_eq_error`,
`Scheduling.replacements_eq_error`, `Scheduling.rerun_eq_error`,
`Scheduling.rerun_eq_error_iff_refuses`, `Scheduling.rerun_eq_error_iff`.
-/
import StageRuns.Proofs.Rerun.Counting
import StageRuns.Proofs.Rerun.Siblings

namespace StageRuns

/-- The instance is the first selected one of its job. -/
def Stage.Leads (old : Stage) (request : List String) (first : JobInstance) : Prop :=
  (old.selectedOf request first.baseName).head? = some first

/-- Why the selected instances of a job, of which `first` is the first, cannot be
made anew. -/
inductive Stage.RefusesJob (old : Stage) (request : List String) (config : StageConfig)
    (s : Scheduling) (first : JobInstance) : Failure → Prop
  /-- The job is not configured any more. -/
  | unconfigured : config.job? first.baseName = none →
      RefusesJob old request config s first
        (.cannotRerunJob first.baseName "Configuration for job doesn't exist.")
  /-- The job ran on all agents and runs once now, but several instances are
  selected. -/
  | severalToOne {job : JobConfig} : config.job? first.baseName = some job →
      first.runType = .runOnAllAgents → job.runType = .single →
      1 < (old.selectedOf request first.baseName).length →
      RefusesJob old request config s first
        (.invalidArgument
          ("Cannot schedule multiple instances of job named '" ++ first.baseName ++ "'."))
  /-- The job runs on all agents, but instances that stay hold all those that
  match. -/
  | noAgentLeft {job : JobConfig} : config.job? first.baseName = some job →
      first.runType = .runOnAllAgents → job.runType = .runOnAllAgents →
      (∀ agent ∈ s.matching job.resources, old.IsHeld request first.baseName agent.id) →
      RefusesJob old request config s first (.noMatchingAgents first.baseName old.name)
  /-- The job runs a number of times, but fewer than the index of a selected
  instance. -/
  | beyondCount {job : JobConfig} {count index : Nat} {before after : List JobInstance}
      {j : JobInstance} : config.job? first.baseName = some job →
      first.runType = .runMultipleInstance → job.runType = .runMultipleInstance →
      job.runInstanceCount = some count →
      old.selectedOf request first.baseName = before ++ j :: after →
      (∀ k ∈ before, ∀ i, k.index? = some i → i ≤ count) →
      j.index? = some index → count < index →
      RefusesJob old request config s first
        (.cannotRerunJob j.name ("Run instance count for job has been changed to " ++
          String.ofList (Text.digitsOfNat count) ++ "."))
  /-- The run type is another one now, and not one of a single run on what was
  one of all agents. -/
  | runTypeChanged {job : JobConfig} : config.job? first.baseName = some job →
      first.runType ≠ job.runType →
      ¬ (first.runType = .runOnAllAgents ∧ job.runType = .single) →
      RefusesJob old request config s first
        (.cannotRerunJob first.baseName
          ("Run configuration for job has been changed to '" ++ job.runType.description ++ "'."))

/-- Why a rerun is refused, by the first reason that applies. -/
inductive Scheduling.Refuses (s : Scheduling) (old : Stage) (request : List String)
    (config : StageConfig) (now : Instant) : Failure → Prop
  /-- A job of the old stage goes on. -/
  | unfinished : (∃ j ∈ old.jobs.members, j.state.isTerminal = false) →
      Refuses s old request config now
        (.invalidArgument ("Stage [" ++ old.name ++
          "] is still in progress; only completed stages can be rerun."))
  /-- Nothing is requested. -/
  | nothing : (∀ j ∈ old.jobs.members, j.state.isTerminal = true) → request = [] →
      Refuses s old request config now (.invalidArgument "No job was selected to re-run.")
  /-- A name is unknown; the first such name is told. -/
  | unknown {before after : List String} {name : String} :
      (∀ j ∈ old.jobs.members, j.state.isTerminal = true) → request = before ++ name :: after →
      (∀ n ∈ before, old.Knows n) → ¬ old.Knows name →
      Refuses s old request config now
        (.invalidArgument ("Job '" ++ name ++ "' does not exist in stage '" ++ old.name ++ "'."))
  /-- The instances of a job cannot be made anew; the first such job is told. -/
  | job {before after : List JobInstance} {first : JobInstance} {failure : Failure} :
      (∀ j ∈ old.jobs.members, j.state.isTerminal = true) → request ≠ [] →
      (∀ n ∈ request, old.Knows n) →
      (old.jobs.members.filter fun j => old.Selects request j) = before ++ first :: after →
      (∀ k ∈ before, old.Leads request k → ∀ f, ¬ old.RefusesJob request config s k f) →
      old.Leads request first → old.RefusesJob request config s first failure →
      Refuses s old request config now failure
  /-- Two instances of the new stage have the same name; the first that has the
  name of an earlier one is told. -/
  | nameTaken {rs : List Replacement} {j : JobInstance} :
      (∀ j ∈ old.jobs.members, j.state.isTerminal = true) → request ≠ [] →
      (∀ n ∈ request, old.Knows n) →
      (∀ k, old.Leads request k → ∀ f, ¬ old.RefusesJob request config s k f) →
      ReplacedGroups old request config s now rs →
      FirstNameTaken (old.merged request config rs) j →
      Refuses s old request config now (.duplicateJob j.name)

/-- The rerun comes to the job of which `first` is the first selected instance: the
request is in order, and no job before this one is refused. -/
structure Scheduling.Reaches (s : Scheduling) (old : Stage) (request : List String)
    (config : StageConfig) (first : JobInstance) : Prop where
  ended : ∀ j ∈ old.jobs.members, j.state.isTerminal = true
  requested : request ≠ []
  known : ∀ n ∈ request, old.Knows n
  leads : old.Leads request first
  before : ∃ before after,
    (old.jobs.members.filter fun j => old.Selects request j) = before ++ first :: after ∧
      ∀ k ∈ before, old.Leads request k → ∀ f, ¬ old.RefusesJob request config s k f

/-- What the rerun counts has 32 bits. A rerun that is refused counts no further. -/
structure Scheduling.CountsFit (s : Scheduling) (old : Stage) (request : List String)
    (config : StageConfig) (now : Instant) : Prop where
  /-- The indices that follow the highest one, one for each agent that is left. -/
  index : ∀ first job, s.Reaches old request config first →
    config.job? first.baseName = some job → first.runType = .runOnAllAgents →
    job.runType = .runOnAllAgents →
    old.topIndex first.baseName +
      (old.agentsLeft request first.baseName (s.matching job.resources)).length <
        InstanceName.indexLimit
  /-- The counter of the new stage, if the rerun is not refused. -/
  counter : (∀ failure, ¬ s.Refuses old request config now failure) →
    old.counter + 1 < InstanceName.indexLimit

namespace RerunGroup

variable {old : Stage} {request : List String} {config : StageConfig} {s : Scheduling}
  {now : Instant} {g : RerunGroup} {job : JobConfig} {failure : Failure}

/-! ### One job -/

theorem selectedOf_first (hg : g ∈ old.groups request) :
    old.selectedOf request g.first.baseName = g.members :=
  Stage.selectedOf_eq_members hg (Text.sameName_self _)

theorem leads_first (hg : g ∈ old.groups request) : old.Leads request g.first := by
  rw [Stage.Leads, selectedOf_first hg]
  rfl

theorem freeAgents_eq_nil_iff (hg : g ∈ old.groups request) :
    g.freeAgents old job (s.forRerun config) = [] ↔
      ∀ agent ∈ s.matching job.resources, old.IsHeld request g.first.baseName agent.id := by
  rw [freeAgents_eq hg (Text.sameName_self _), Stage.agentsLeft, List.filter_eq_nil_iff]
  refine forall₂_congr fun agent _ => ?_
  rw [decide_eq_true_iff, not_not]
  rfl

/-- An instance without an index does not exceed a number that is not zero. -/
theorem lt_getD_iff {count : Nat} (hc : 0 < count) (j : JobInstance) :
    count < j.index?.getD 1 ↔ ∃ i, j.index? = some i ∧ count < i := by
  cases h : j.index? with
  | none =>
    rw [Option.getD_none]
    exact ⟨fun hlt => absurd hlt (by omega), fun ⟨_, hi, _⟩ => nomatch hi⟩
  | some i => exact ⟨fun hlt => ⟨i, rfl, hlt⟩, fun ⟨_, hi, hlt⟩ => by cases hi; exact hlt⟩

/-- Instances of a number are not made anew if the index of one exceeds the
number. -/
theorem mapM_atSameIndex_eq_error {plan : JobPlan} {count : Nat} (hc : 0 < count)
    {js : List JobInstance} :
    js.mapM (g.atSameIndex plan count now) = .error failure ↔
      ∃ before j after index, js = before ++ j :: after ∧
        (∀ k ∈ before, ∀ i, k.index? = some i → i ≤ count) ∧ j.index? = some index ∧
          count < index ∧ failure = .cannotRerunJob j.name
            ("Run instance count for job has been changed to " ++
              String.ofList (Text.digitsOfNat count) ++ ".") := by
  have hle : ∀ k : JobInstance, (∃ fresh, g.atSameIndex plan count now k = .ok fresh) ↔
      ∀ i, k.index? = some i → i ≤ count := by
    intro k
    simp only [atSameIndex_eq_ok, exists_and_left, exists_eq, and_true]
    rw [← Nat.not_lt, lt_getD_iff hc]
    simp
  rw [Outcome.mapM_eq_error]
  constructor
  · rintro ⟨before, j, after, rfl, hbefore, hj⟩
    obtain ⟨hlt, rfl⟩ := atSameIndex_eq_error.mp hj
    obtain ⟨index, hindex, hlt⟩ := (lt_getD_iff hc j).mp hlt
    exact ⟨before, j, after, index, rfl, fun k hk => (hle k).mp (hbefore k hk), hindex, hlt, rfl⟩
  · rintro ⟨before, j, after, index, rfl, hbefore, hindex, hlt, rfl⟩
    exact ⟨before, j, after, rfl, fun k hk => (hle k).mpr (hbefore k hk),
      atSameIndex_eq_error.mpr ⟨(lt_getD_iff hc j).mpr ⟨index, hindex, hlt⟩, rfl⟩⟩

theorem freshInstances_of_changed (hne : g.first.runType ≠ job.runType)
    (hno : ¬ (g.first.runType = .runOnAllAgents ∧ job.runType = .single)) :
    g.freshInstances old job s now = .error (g.runTypeChanged job.runType) := by
  unfold freshInstances
  simp only
  split
  case h_1 hf hj => exact absurd (hf.trans hj.symm) hne
  case h_2 hf hj => exact absurd ⟨hf, hj⟩ hno
  case h_3 hf hj => exact absurd (hf.trans hj.symm) hne
  case h_4 hf hj => exact absurd (hf.trans hj.symm) hne
  case h_5 => rfl

/-- A configured job is refused exactly if its group cannot be made anew. -/
theorem freshInstances_eq_error (hg : g ∈ old.groups request)
    (hc : config.job? g.base = some job) :
    g.freshInstances old job (s.forRerun config) now = .error failure ↔
      old.RefusesJob request config s g.first failure := by
  constructor
  · intro h
    unfold freshInstances at h
    simp only at h
    split at h
    case h_1 => cases h
    case h_2 hf hj =>
      obtain ⟨ho, rfl⟩ := onSameAgent_eq_error.mp (Outcome.map_eq_error.mp h)
      refine .severalToOne hc hf hj ?_
      rw [selectedOf_first hg, members, List.length_cons]
      have := List.length_pos_of_ne_nil ho
      omega
    case h_3 hf hj =>
      obtain ⟨hnil, rfl⟩ := runOnAllInstances_eq_error.mp h
      exact .noAgentLeft hc hf hj ((freeAgents_eq_nil_iff hg).mp hnil)
    case h_4 hf hj =>
      obtain ⟨n, hn⟩ := JobConfig.exists_runInstanceCount hj
      rw [hn, Option.getD_some] at h
      obtain ⟨before, j, after, index, hsplit, hbefore, hindex, hlt, rfl⟩ :=
        (mapM_atSameIndex_eq_error (Nat.succ_pos n)).mp h
      have hsel := (selectedOf_first hg).trans hsplit
      exact .beyondCount hc hf hj hn hsel hbefore hindex hlt
    case h_5 hss hsa haa hmm =>
      cases h
      refine .runTypeChanged hc (fun he => ?_) fun h => hsa h.1 h.2
      cases hj : job.runType with
      | single => exact hss (he.trans hj) hj
      | runOnAllAgents => exact haa (he.trans hj) hj
      | runMultipleInstance => exact hmm (he.trans hj) hj
  · intro h
    cases h with
    | unconfigured hno =>
      rw [base, hno] at hc
      cases hc
    | severalToOne hc' hf hj hlen =>
      cases hc.symm.trans hc'
      rw [freshInstances, hf, hj]
      rw [selectedOf_first hg, members, List.length_cons] at hlen
      refine Outcome.map_eq_error.mpr (onSameAgent_eq_error.mpr ⟨?_, rfl⟩)
      exact List.ne_nil_of_length_pos (by omega)
    | noAgentLeft hc' hf hj hheld =>
      cases hc.symm.trans hc'
      rw [freshInstances, hf, hj]
      exact runOnAllInstances_eq_error.mpr ⟨(freeAgents_eq_nil_iff hg).mpr hheld, rfl⟩
    | beyondCount hc' hf hj hcount hsplit hbefore hindex hlt =>
      cases hc.symm.trans hc'
      have hpos := job.runInstanceCount_pos hj
      rw [hcount, Option.getD_some] at hpos
      rw [freshInstances, hf, hj, hcount, Option.getD_some]
      rw [selectedOf_first hg] at hsplit
      exact (mapM_atSameIndex_eq_error hpos).mpr
        ⟨_, _, _, _, hsplit, hbefore, hindex, hlt, rfl⟩
    | runTypeChanged hc' hne hno =>
      cases hc.symm.trans hc'
      exact freshInstances_of_changed hne hno

/-- A group is not replaced exactly if its job is refused. -/
theorem replacement_eq_error (hg : g ∈ old.groups request) :
    g.replacement old config (s.forRerun config) now = .error failure ↔
      old.RefusesJob request config s g.first failure := by
  unfold replacement
  cases hc : config.job? g.base with
  | some job => exact Outcome.map_eq_error.trans (freshInstances_eq_error hg hc)
  | none =>
    constructor
    · intro h
      cases h
      exact .unconfigured hc
    · intro h
      cases h with
      | unconfigured => rfl
      | severalToOne hc' | noAgentLeft hc' | beyondCount hc' | runTypeChanged hc' =>
        rw [base, hc'] at hc
        cases hc

end RerunGroup

/-! ### All jobs -/

variable {old : Stage} {request : List String} {config : StageConfig} {s : Scheduling}
  {now : Instant} {failure : Failure}

/-- The first selected instance of a job is that of a group. -/
theorem Stage.Leads.exists_group {first : JobInstance} (h : old.Leads request first) :
    ∃ g ∈ old.groups request, g.first = first := by
  have hmem : first ∈ old.selectedOf request first.baseName := List.mem_of_mem_head? h
  obtain ⟨g, hg, hb⟩ := exists_group_of_mem hmem
  rw [Leads, selectedOf_eq_members hg hb] at h
  exact ⟨g, hg, Option.some.inj h⟩

/-- A group is replaced unless its job is refused. -/
theorem RerunGroup.exists_replacement_iff {g : RerunGroup} (hg : g ∈ old.groups request) :
    (∃ r, g.replacement old config (s.forRerun config) now = .ok r) ↔
      ∀ f, ¬ old.RefusesJob request config s g.first f := by
  constructor
  · rintro ⟨r, hr⟩ f hf
    rw [(replacement_eq_error hg).mpr hf] at hr
    cases hr
  · exact fun h => Outcome.exists_of_ne_error fun f hf => h f ((replacement_eq_error hg).mp hf)

namespace Scheduling

/-- The selected instances are not replaced exactly if a job is refused, and the
first selected instance of a refused job decides. -/
theorem replacements_eq_error :
    s.replacements old request config now = .error failure ↔
      ∃ before first after, old.selected request = before ++ first :: after ∧
        (∀ k ∈ before, old.Leads request k → ∀ f, ¬ old.RefusesJob request config s k f) ∧
          old.Leads request first ∧ old.RefusesJob request config s first failure := by
  -- the groups before that of `first` are those of instances before `first`
  have hrefused : ∀ {before first after f}, old.selected request = before ++ first :: after →
      (∀ k ∈ before, old.Leads request k → ∀ f, ¬ old.RefusesJob request config s k f) →
      old.Leads request first → old.RefusesJob request config s first f →
      s.replacements old request config now = .error f := by
    intro before first after f hsplit hbefore hleads hf
    obtain ⟨g, hg, rfl⟩ := hleads.exists_group
    obtain ⟨gs, hs, hgroups, hgs⟩ := RerunGroup.ofInstances_eq_append hg hsplit
    refine Outcome.mapM_eq_error.mpr ⟨gs, g, hs, hgroups, fun h hh => ?_,
      (RerunGroup.replacement_eq_error hg).mpr hf⟩
    have hmem : h ∈ old.groups request := by
      rw [Stage.groups, hgroups]
      exact List.mem_append_left _ hh
    exact (RerunGroup.exists_replacement_iff hmem).mpr
      (hbefore h.first (hgs h hh) (RerunGroup.leads_first hmem))
  constructor
  · intro h
    obtain ⟨gs, g, hs, hgroups, -, hg⟩ := Outcome.mapM_eq_error.mp h
    have hmem : g ∈ old.groups request := by
      rw [Stage.groups, hgroups]
      exact List.mem_append_right _ List.mem_cons_self
    have hfirst : g.first ∈ old.selected request := RerunGroup.first_mem hmem
    obtain ⟨before, first, after, hsplit, hbefore, hleads, f, hf⟩ :=
      Lists.exists_first (P := fun k => old.Leads request k ∧
        ∃ f, old.RefusesJob request config s k f) hfirst
        ⟨RerunGroup.leads_first hmem, failure, (RerunGroup.replacement_eq_error hmem).mp hg⟩
    have hno : ∀ k ∈ before, old.Leads request k → ∀ f, ¬ old.RefusesJob request config s k f :=
      fun k hk hl f hf => hbefore k hk ⟨hl, f, hf⟩
    have he := (hrefused hsplit hno hleads hf).symm.trans h
    cases he
    exact ⟨before, first, after, hsplit, hno, hleads, hf⟩
  · rintro ⟨before, first, after, hsplit, hbefore, hleads, hf⟩
    exact hrefused hsplit hbefore hleads hf

/-- A rerun fails because the old stage has not ended, or else because of its
request, its groups or the names of the new instances. -/
theorem rerun_eq_error {configVersion : String} :
    s.rerun old request config configVersion now = .error failure ↔
      old.isCompleted = false ∧ failure = .invalidArgument ("Stage [" ++ old.name ++
          "] is still in progress; only completed stages can be rerun.") ∨
      old.isCompleted = true ∧ (old.checkRequest request = .error failure ∨
        old.Accepts request ∧ (s.replacements old request config now = .error failure ∨
          ∃ rs, ReplacedGroups old request config s now rs ∧
            Jobs.ofList (old.merged request config rs) = .error failure)) := by
  unfold rerun
  cases hc : old.isCompleted with
  | false =>
    simp only [Bool.not_false, ↓reduceIte, true_and, Bool.false_eq_true, false_and, or_false]
    exact ⟨fun h => by cases h; rfl, fun h => by rw [h]; rfl⟩
  | true =>
    simp only [Bool.not_true, Bool.false_eq_true, ↓reduceIte, Bool.true_eq_false, false_and,
      false_or, true_and]
    constructor
    · intro h
      rcases Outcome.bind_eq_error.mp h with h | ⟨_, ha, h⟩
      · exact .inl h
      refine .inr ⟨Stage.checkRequest_eq_ok.mp ha, ?_⟩
      rcases Outcome.bind_eq_error.mp h with h | ⟨rs, hrs, h⟩
      · exact .inl h
      rcases Outcome.bind_eq_error.mp h with h | ⟨jobs, _, h⟩
      · exact .inr ⟨rs, replacements_eq_ok.mp hrs, h⟩
      · cases h
    · rintro (h | ⟨ha, h | ⟨rs, hrs, h⟩⟩)
      · exact Outcome.bind_eq_error.mpr (.inl h)
      · exact Outcome.bind_eq_error.mpr
          (.inr ⟨(), Stage.checkRequest_eq_ok.mpr ha, Outcome.bind_eq_error.mpr (.inl h)⟩)
      · refine Outcome.bind_eq_error.mpr (.inr ⟨(), Stage.checkRequest_eq_ok.mpr ha, ?_⟩)
        refine Outcome.bind_eq_error.mpr (.inr ⟨rs, replacements_eq_ok.mpr hrs, ?_⟩)
        exact Outcome.bind_eq_error.mpr (.inl h)

end Scheduling

theorem Stage.isCompleted_iff : old.isCompleted = true ↔
    ∀ j ∈ old.jobs.members, j.state.isTerminal = true := by
  rw [isCompleted, Jobs.areEnded, List.all_eq_true]
  refine forall₂_congr fun j _ => ?_
  rw [JobInstance.isActive, JobState.isActive, Bool.not_not]

theorem Stage.isCompleted_eq_false_iff : old.isCompleted = false ↔
    ∃ j ∈ old.jobs.members, j.state.isTerminal = false := by
  rw [Bool.eq_false_iff, ne_eq, isCompleted_iff]
  simp

/-- If all groups are replaced, no job is refused. -/
theorem ReplacedGroups.not_refusesJob {rs : List Replacement}
    (h : ReplacedGroups old request config s now rs) {k : JobInstance} (hk : old.Leads request k)
    (f : Failure) : ¬ old.RefusesJob request config s k f := by
  obtain ⟨g, hg, rfl⟩ := hk.exists_group
  obtain ⟨r, _, hr⟩ := h.exists_replacement hg
  exact (RerunGroup.exists_replacement_iff hg).mp
    ⟨r, RerunGroup.replacement_eq_ok.mpr hr⟩ f

/-- What is selected, by either notion of selection. -/
theorem Stage.selected_eq_filter :
    old.selected request = old.jobs.members.filter fun j => old.Selects request j :=
  List.filter_congr fun j hj => by
    rw [Bool.eq_iff_iff, decide_eq_true_iff, Stage.selects_iff hj]

namespace Scheduling

/-- A rerun is refused for the reasons listed, and for no other. -/
theorem rerun_eq_error_iff_refuses {configVersion : String} :
    s.rerun old request config configVersion now = .error failure ↔
      s.Refuses old request config now failure := by
  rw [rerun_eq_error, replacements_eq_error, Stage.selected_eq_filter]
  constructor
  · rintro (⟨hc, rfl⟩ | ⟨hc, h⟩)
    · exact .unfinished (Stage.isCompleted_eq_false_iff.mp hc)
    · have hended := Stage.isCompleted_iff.mp hc
      rcases h with h | ⟨ha, h⟩
      · obtain ⟨hnil, rfl⟩ | ⟨before, name, after, hsplit, hbefore, hname, rfl⟩ :=
          Stage.checkRequest_eq_error.mp h
        · exact .nothing hended hnil
        · exact .unknown hended hsplit hbefore hname
      · obtain ⟨hne, hknown⟩ := Stage.accepts_iff.mp ha
        rcases h with ⟨before, first, after, hsplit, hbefore, hleads, hf⟩ | ⟨rs, hrs, h⟩
        · exact .job hended hne hknown hsplit hbefore hleads hf
        · obtain ⟨j, hj, rfl⟩ := Jobs.ofList_eq_error.mp h
          exact .nameTaken hended hne hknown (fun k hk f => hrs.not_refusesJob hk f) hrs hj
  · intro h
    cases h with
    | unfinished hex => exact .inl ⟨Stage.isCompleted_eq_false_iff.mpr hex, rfl⟩
    | nothing hended hnil =>
      exact .inr ⟨Stage.isCompleted_iff.mpr hended,
        .inl (Stage.checkRequest_eq_error.mpr (.inl ⟨hnil, rfl⟩))⟩
    | unknown hended hsplit hbefore hname =>
      exact .inr ⟨Stage.isCompleted_iff.mpr hended, .inl (Stage.checkRequest_eq_error.mpr
        (.inr ⟨_, _, _, hsplit, hbefore, hname, rfl⟩))⟩
    | job hended hne hknown hsplit hbefore hleads hf =>
      exact .inr ⟨Stage.isCompleted_iff.mpr hended, .inr ⟨Stage.accepts_iff.mpr ⟨hne, hknown⟩,
        .inl ⟨_, _, _, hsplit, hbefore, hleads, hf⟩⟩⟩
    | nameTaken hended hne hknown _ hrs hj =>
      exact .inr ⟨Stage.isCompleted_iff.mpr hended, .inr ⟨Stage.accepts_iff.mpr ⟨hne, hknown⟩,
        .inr ⟨_, hrs, Jobs.ofList_eq_error.mpr ⟨_, hj, rfl⟩⟩⟩⟩

/-! ### What is counted -/

/-- There is room for an index for each agent of the pool, and for one more stage. -/
theorem countsFit_of_pool (hindex : ∀ j ∈ old.jobs.members,
      old.topIndex j.baseName + s.agents.members.length < InstanceName.indexLimit)
    (hcounter : old.counter + 1 < InstanceName.indexLimit) :
    s.CountsFit old request config now := by
  refine ⟨fun first job hreach _ _ _ => ?_, fun _ => hcounter⟩
  have hmem : first ∈ old.jobs.members :=
    List.mem_of_mem_filter (List.mem_of_mem_head? hreach.leads)
  have hleft : (old.agentsLeft request first.baseName (s.matching job.resources)).length ≤
      s.agents.members.length :=
    (List.length_filter_le _ _).trans (List.length_filter_le _ _)
  have := hindex first hmem
  omega

end Scheduling

namespace ReplacedGroups

variable {rs : List Replacement} {g : RerunGroup} {r : Replacement} {j : JobInstance}

/-- If all groups are replaced, the rerun comes to the jobs of all of them. -/
theorem reaches (h : ReplacedGroups old request config s now rs) (hend : old.isCompleted = true)
    (ha : old.Accepts request) (hg : g ∈ old.groups request) :
    s.Reaches old request config g.first := by
  obtain ⟨hne, hknown⟩ := Stage.accepts_iff.mp ha
  have hfirst : g.first ∈ old.jobs.members.filter fun j => old.Selects request j := by
    rw [← Stage.selected_eq_filter]
    exact RerunGroup.first_mem hg
  obtain ⟨before, after, hsplit⟩ := List.append_of_mem hfirst
  exact ⟨Stage.isCompleted_iff.mp hend, hne, hknown, RerunGroup.leads_first hg, before, after,
    hsplit, fun k _ hk f => h.not_refusesJob hk f⟩

end ReplacedGroups

/-- The indices of the new instances of a job have 32 bits. -/
theorem RerunGroup.ReplacedBy.indexFits {g : RerunGroup} {r : Replacement} {j : JobInstance}
    (h : g.ReplacedBy old config s now r) (hg : g ∈ old.groups request)
    (hreach : s.Reaches old request config g.first) (hfits : s.CountsFit old request config now)
    (hj : j ∈ r.jobs) : j.IndexFits := by
  obtain ⟨job, fresh, hc, hf, rfl⟩ := h
  obtain ⟨k, hk, rfl⟩ := List.mem_map.mp hj
  show k.IndexFits
  cases hf with
  | once | onSameAgent =>
    rw [List.mem_singleton.mp hk]
    exact fun _ _ hr => absurd rfl hr
  | onFreeAgents hfirst hjob =>
    have hroom := hfits.index g.first job hreach hc hfirst hjob
    rw [highestIndex_eq (Text.sameName_self _), freeAgents_eq hg (Text.sameName_self _)] at hk
    exact indexFits_of_mem_agentRow hroom hk
  | atIndices =>
    obtain ⟨m, _, rfl⟩ := List.mem_map.mp hk
    exact JobInstance.indexFits_of_name nofun rfl m.index?_getD_lt

/-- As long as what a rerun counts has 32 bits, it is refused for the reasons listed, and
for no other; if it is not refused, the counter of the new stage and the indices of its
new instances have 32 bits. -/
theorem Scheduling.rerun_eq_error_iff {configVersion : String}
    (hfits : s.CountsFit old request config now) :
    (∀ failure, s.rerun old request config configVersion now = .error failure ↔
      s.Refuses old request config now failure) ∧
    ∀ new, s.rerun old request config configVersion now = .ok new →
      new.counter < InstanceName.indexLimit ∧
        ∀ j ∈ new.jobs.members, j.isRerun = true → j.IndexFits := by
  refine ⟨fun failure => rerun_eq_error_iff_refuses, fun new hnew => ?_⟩
  have hno : ∀ failure, ¬ s.Refuses old request config now failure := by
    intro failure hrefuses
    have hfails : s.rerun old request config configVersion now = .error failure :=
      rerun_eq_error_iff_refuses.mpr hrefuses
    rw [hfails] at hnew
    cases hnew
  obtain ⟨hend, ha, rs, hrs, -, rfl⟩ := rerun_eq_ok.mp hnew
  refine ⟨hfits.counter hno, fun j hj hrerun => ?_⟩
  rcases mem_mergeReplacements hj with ⟨k, _, _, rfl⟩ | ⟨r, hr, hj⟩
  · -- a copy was not made to run again
    obtain ⟨agent, hkeep⟩ := config.exists_keep_eq k
    rw [hkeep] at hrerun
    cases hrerun
  · obtain ⟨g, hg, hgr⟩ := hrs.exists_group hr
    exact hgr.indexFits hg (hrs.reaches hend ha hg) hfits hj

/-- Job `a` runs on all agents, and job `b` twice. -/
def agentsAndTwice : StageConfig where
  name := "test"
  jobs := [{ name := "a", runOnAllAgents := true }, { name := "b", runInstanceCount := some 2 }]

/-- Job `a` would be given the index 3, but job `b` ran once. A request without a known
name is refused before that. -/
theorem Scheduling.rerun_eq_error_iff_passedOnTwoAgents :
    twoAgents.Refuses passedOnTwoAgents ["a-runOnAll-2", "b"] agentsAndTwice ⟨2, 0⟩
      (.cannotRerunJob "b"
        "Run configuration for job has been changed to 'run multiple instance'.") ∧
    twoAgents.rerun passedOnTwoAgents ["a-runOnAll-2", "c", "b"] agentsAndTwice "2" ⟨2, 0⟩ =
      .error (.invalidArgument "Job 'c' does not exist in stage 'test'.") ∧
    ∃ new, twoAgents.rerun passedOnTwoAgents ["a-runOnAll-2", "b"] agentsAndOnce "2" ⟨2, 0⟩ =
      .ok new ∧ new.counter < InstanceName.indexLimit ∧
        ∀ j ∈ new.jobs.members, j.isRerun = true → j.IndexFits := by
  have hfits : ∀ request config, twoAgents.CountsFit passedOnTwoAgents request config ⟨2, 0⟩ :=
    fun _ _ => countsFit_of_pool (by decide +kernel) (by decide)
  have hchanged : twoAgents.rerun passedOnTwoAgents ["a-runOnAll-2", "b"] agentsAndTwice "2"
      ⟨2, 0⟩ = .error (.cannotRerunJob "b"
        "Run configuration for job has been changed to 'run multiple instance'.") := by
    decide +kernel
  obtain ⟨new, hnew⟩ : ∃ new, twoAgents.rerun passedOnTwoAgents ["a-runOnAll-2", "b"] agentsAndOnce
      "2" ⟨2, 0⟩ = .ok new :=
    Outcome.exists_of_isOk (by decide +kernel)
  have hsplit : ["a-runOnAll-2", "c", "b"] = ["a-runOnAll-2"] ++ "c" :: ["b"] := rfl
  have hunknown : twoAgents.Refuses passedOnTwoAgents ["a-runOnAll-2", "c", "b"] agentsAndTwice
      ⟨2, 0⟩ (.invalidArgument "Job 'c' does not exist in stage 'test'.") :=
    .unknown (by decide +kernel) hsplit (by decide +kernel) (by decide +kernel)
  exact ⟨((rerun_eq_error_iff (hfits _ _)).1 _).mp hchanged,
    ((rerun_eq_error_iff (hfits _ _)).1 _).mpr hunknown, new, hnew,
    (rerun_eq_error_iff (hfits _ _)).2 new hnew⟩

end StageRuns
