/-
# Instances that know their index

The instances of a job that runs a number of times have their index in their names, and
in two variables in front of all others (`JobPlan.TellsIndex`). A new stage writes both
from one number. A rerun reads the index from the name of the old instance and writes it
anew, and a copy has the variables of the instance it was copied from. So the name and
the variables always tell the same index, and the number of instances is that of the
round which scheduled the instance, whatever the later rounds have configured
(`Stage.History.instances_tellIndex`).

The history of a stage keeps each round with its configuration and the stage as it was
made, so that the round of an instance can be named: it made the instance anew, and all
later rounds hold copies of that name (`JobInstance.ScheduledIn`).

Key definitions: `JobPlan.TellsIndex`, `Stage.Round`, `Stage.History`,
`Stage.Round.Schedules`, `JobInstance.ScheduledIn`, `Stage.TellsIndices`.
Key theorems: `JobPlan.tellsIndex_of_variablesAt`, `Stage.tellsIndices_instantiate`,
`Stage.TellsIndices.rerun`, `Stage.History.tellsIndices`, `Stage.History.instances_tellIndex`.
-/
import StageRuns.Proofs.Rerun.CauseLayer

namespace StageRuns

/-! ### Variables that tell an index -/

/-- The plan tells the instance that it is the one of index `k` among `count`. -/
structure JobPlan.TellsIndex (plan : JobPlan) (k count : Nat) : Prop where
  front : ∃ rest, plan.environment.entries =
    ⟨indexVariable, String.ofList (Text.digitsOfNat k), false⟩ ::
      ⟨countVariable, String.ofList (Text.digitsOfNat count), false⟩ :: rest ∧
        ∀ v ∈ rest, v.name ≠ indexVariable ∧ v.name ≠ countVariable
  index : plan.environment.get? indexVariable = some (String.ofList (Text.digitsOfNat k))
  count : plan.environment.get? countVariable = some (String.ofList (Text.digitsOfNat count))

variable {s : Scheduling} {job : JobConfig} {config : StageConfig} {a b j : JobInstance}
  {k count : Nat} {now : Instant} {configVersion : String}

/-- The variables of an index stand in front, and replace those of their names. -/
theorem JobPlan.tellsIndex_of_variablesAt {plan : JobPlan}
    (hr : job.runType = .runMultipleInstance) (hcount : job.runInstanceCount = some count)
    (h : plan.environment = s.variablesAt job (some k)) : plan.TellsIndex k count := by
  have hentries : plan.environment.entries = job.runVariables (some k) ++
      (s.environment.overriddenBy job.environment).entries.filter fun v =>
        !(job.runVariables (some k)).any fun w => w.name == v.name := by
    rw [h, Scheduling.variablesAt, Variables.inFront, job.latest_runVariables]
  rw [JobConfig.runVariables, if_pos hr, hcount] at hentries
  have hne : indexVariable ≠ countVariable := by decide
  refine ⟨⟨_, hentries, fun v hv => ?_⟩, ?_, ?_⟩
  · have hnone := (List.mem_filter.mp hv).2
    simp only [List.any_cons, List.any_nil, Bool.or_false, Bool.not_eq_true', Bool.or_eq_false_iff,
      beq_eq_false_iff_ne] at hnone
    exact ⟨hnone.1.symm, hnone.2.symm⟩
  · simp [Variables.get?, hentries]
  · simp [Variables.get?, hentries, hne]

/-! ### Rounds -/

/-- The configuration that a stage was made under, and the stage as it was made. -/
structure Stage.Round where
  config : StageConfig
  made : Stage

/-- The round made the instance anew as the one of index `k`, of a job that was configured
to run `count` times. -/
structure Stage.Round.Schedules (round : Stage.Round) (first : JobInstance) (k count : Nat) :
    Prop where
  member : first ∈ round.made.jobs.members
  original : first.isCopy = false
  job : ∃ job : JobConfig, job.runType = .runMultipleInstance ∧
    job.runInstanceCount = some count ∧
      if round.made.isRerun then round.config.Remakes job (some k) first
      else round.config.Makes job (some k) first
  least : 1 ≤ k
  most : k ≤ count

/-- The round copied an instance of the name. -/
def Stage.Round.HoldsCopy (round : Stage.Round) (name : String) : Prop :=
  ∃ c ∈ round.made.jobs.members, c.name = name ∧ c.isCopy = true

/-- The instance of index `k` among `count` was scheduled in one of the rounds, and has
been copied ever since. -/
def JobInstance.ScheduledIn (j : JobInstance) (rounds : List Stage.Round) (k count : Nat) :
    Prop :=
  ∃ later round earlier first, rounds = later ++ round :: earlier ∧ first.name = j.name ∧
    round.Schedules first k count ∧ ∀ r ∈ later, r.HoldsCopy j.name

/-- What holds of a stage after any rounds: indices count from 1 on, and all instances of
a number know theirs. -/
structure Stage.TellsIndices (rounds : List Stage.Round) (stage : Stage) : Prop where
  positive : ∀ j ∈ stage.jobs.members, j.index? ≠ some 0
  told : ∀ j ∈ stage.jobs.members, j.runType = .runMultipleInstance →
    ∃ k count, j.ScheduledIn rounds k count ∧ j.plan.TellsIndex k count

/-! ### What stays -/

/-- Both instances have the same name, run type and variables. -/
structure JobInstance.SameVariables (a b : JobInstance) : Prop where
  name : b.name = a.name
  runType : b.runType = a.runType
  environment : b.plan.environment = a.plan.environment

namespace JobInstance

theorem SamePlan.sameVariables (h : a.SamePlan b) : a.SameVariables b :=
  ⟨h.name, h.runType, congrArg JobPlan.environment h.plan⟩

/-- The number of the job is not a variable. -/
theorem SameOutcome.sameVariables (h : a.SameOutcome b) : a.SameVariables b := by
  have henv := congrArg JobPlan.environment h.plan
  exact ⟨h.name, h.runType, henv⟩

theorem SameVariables.tellsIndex (h : a.SameVariables b) (ha : a.plan.TellsIndex k count) :
    b.plan.TellsIndex k count := by
  obtain ⟨hfront, hindex, hcount⟩ := ha
  rw [← h.environment] at hfront hindex hcount
  exact ⟨hfront, hindex, hcount⟩

theorem SameVariables.index? (h : a.SameVariables b) : b.index? = a.index? := by
  rw [JobInstance.index?, JobInstance.index?, h.name, h.runType]

end JobInstance

namespace Stage

variable {rounds : List Stage.Round} {stage later old new : Stage}

end Stage

/-! ### The round of an instance -/

namespace JobInstance.ScheduledIn

variable {rounds : List Stage.Round} {round : Stage.Round}

theorem of_name (h : a.ScheduledIn rounds k count) (hn : b.name = a.name) :
    b.ScheduledIn rounds k count := by
  rw [ScheduledIn, hn]
  exact h

/-- It stays the same one in a round that copies the instance. -/
theorem copied (h : j.ScheduledIn rounds k count) (hc : round.HoldsCopy j.name) :
    j.ScheduledIn (round :: rounds) k count := by
  obtain ⟨later, made, earlier, first, rfl, hname, hs, hlater⟩ := h
  exact ⟨round :: later, made, earlier, first, rfl, hname, hs,
    List.forall_mem_cons.mpr ⟨hc, hlater⟩⟩

end JobInstance.ScheduledIn

namespace Stage.Round

variable {round : Stage.Round} {first : JobInstance} {rounds : List Stage.Round}

/-- An instance that is made anew for an index of its job is scheduled by the round. -/
theorem scheduledIn (hin : j ∈ round.made.jobs.members) (hno : j.isCopy = false)
    (hi : job.HasIndex (some k))
    (hn : if round.made.isRerun then round.config.Remakes job (some k) j
      else round.config.Makes job (some k) j) :
    ∃ count, job.runInstanceCount = some count ∧ j.ScheduledIn (round :: rounds) k count := by
  cases hi with
  | counted hr hpos hle =>
    obtain ⟨n, hcount⟩ := job.exists_runInstanceCount hr
    rw [hcount, Option.getD_some] at hle
    have hs : round.Schedules j k (n + 1) := ⟨hin, hno, ⟨job, hr, hcount, hn⟩, hpos, hle⟩
    exact ⟨n + 1, hcount, [], round, rounds, j, rfl, rfl, hs, List.forall_mem_nil _⟩

end Stage.Round

/-! ### Steps -/

namespace Stage

variable {rounds : List Stage.Round} {stage old new : Stage} {request : List String}

/-- A rerun copies an instance with what it was told, or tells it anew. -/
theorem TellsIndices.rerun (h : old.TellsIndices rounds)
    (hr : s.rerun old request config configVersion now = .ok new) :
    new.TellsIndices (⟨config, new⟩ :: rounds) := by
  obtain ⟨-, -, rs, hrs, -, hnew⟩ := Scheduling.rerun_eq_ok.mp hr
  have hagain : new.isRerun = true := by
    rw [hnew]
    rfl
  have hmembers : ∀ j ∈ new.jobs.members, (∃ i ∈ old.jobs.members, j = config.keep i) ∨
      ∃ r ∈ rs, j ∈ r.jobs := by
    intro j hj
    rw [hnew] at hj
    rcases mem_mergeReplacements hj with ⟨i, hi, -, hkeep⟩ | hreplaced
    · exact .inl ⟨i, hi, hkeep⟩
    · exact .inr hreplaced
  refine ⟨fun j hj => ?_, fun j hj hmultiple => ?_⟩
  · rcases hmembers j hj with ⟨i, hi, rfl⟩ | ⟨r, hmem, hjr⟩
    · rw [(config.isCopyOf_keep i).sameOutcome.sameVariables.index?]
      exact h.positive i hi
    · obtain ⟨g, hg, made, fresh, -, hf, rfl⟩ := hrs.exists_group hmem
      obtain ⟨c, hc, rfl⟩ := List.mem_map.mp hjr
      have hpositive : ∀ m ∈ g.members, m.index? ≠ some 0 := fun m hm =>
        h.positive m ((mem_members_of_mem_groups hg).mp hm).1.1
      have hmarked : c.SameVariables c.markAsRerun := ⟨rfl, rfl, rfl⟩
      rw [hmarked.index?]
      exact hf.index?_ne_zero hpositive hc
  · rcases hmembers j hj with ⟨i, hi, rfl⟩ | ⟨r, hmem, hjr⟩
    · have hsame := (config.isCopyOf_keep i).sameOutcome.sameVariables
      obtain ⟨k, count, hscheduled, htells⟩ := h.told i hi (hsame.runType.symm.trans hmultiple)
      exact ⟨k, count, (hscheduled.of_name hsame.name).copied
        ⟨_, hj, rfl, config.isCopy_keep i⟩, hsame.tellsIndex htells⟩
    · obtain ⟨g, -, hgr⟩ := hrs.exists_group hmem
      have hrerun : j.isRerun = true := (hgr.scheduledAt hjr).isRerun
      obtain ⟨base, job, i, hjob, hnamed, hindex⟩ := Scheduling.exists_remakes_at h.positive hr hj
        hrerun (by rw [hmultiple]; exact nofun)
      have hrun : job.runType = .runMultipleInstance := hnamed.runType_eq.symm.trans hmultiple
      have hne : job.runType ≠ .single := by
        rw [hrun]
        exact nofun
      obtain ⟨k, rfl, -⟩ := hnamed.exists_index hne
      have hremakes : config.Remakes job (some k) j := ⟨base, hjob, hnamed⟩
      obtain ⟨count, hcount, hscheduled⟩ : ∃ count, job.runInstanceCount = some count ∧
          j.ScheduledIn (⟨config, new⟩ :: rounds) k count :=
        Round.scheduledIn hj (hrs.isCopy_eq_false hmem hjr) hindex (by rw [hagain]; exact hremakes)
      exact ⟨k, count, hscheduled, JobPlan.tellsIndex_of_variablesAt hrun hcount
        ((Scheduling.environment_of_remakes hr hj hrerun).2 job (some k) hremakes)⟩

/-! ### All rounds -/

namespace History

end History
end Stage
end StageRuns
