/-
# Instances named for jobs

An instance is named for a job if it has the run type of the job and the name
that the job gives to its instance of an index, or to its only instance.
Instantiation names all instances for their jobs, keeps to the configured number
and binds instances for all agents to agents that match
(`Scheduling.exists_fills`).

Instances have the same name only if they belong to the same job and have the
same index, as long as no job that runs once has a name that ends in a marker
and digits (`JobInstance.NamedFor.eq_of_sameName`); the instance of such a job
could have the name of an instance for an agent. The name of a job is plain if
it is not empty and holds no marker at all, case of letters apart.

Key definitions: `JobInstance.NamedFor`, `JobInstance.Fills`, `IsPlainName`,
`EndsInIndex`, `StageConfig.IsPlain`.
Key theorems: `JobInstance.NamedFor.parts`, `Scheduling.exists_fills`,
`StageConfig.job?_name`, `JobInstance.NamedFor.eq_of_sameName`.
-/
import StageRuns.Proofs.Instantiation
import StageRuns.Proofs.Lists
import Mathlib.Data.List.DropRight
import Mathlib.Data.List.Pairwise

namespace StageRuns

/-- The instance has the run type of the job and the name that the job gives to
its instance of an index, or to its only instance. -/
inductive JobInstance.NamedFor (j : JobInstance) (job : JobConfig) : Option Nat → Prop
  | once : job.runType = .single → j.runType = .single → j.name = job.name → NamedFor j job none
  | numbered {k : Nat} : job.runType ≠ .single → j.runType = job.runType →
      j.name = instanceName job.name job.runType k → NamedFor j job (some k)

namespace JobInstance.NamedFor

variable {a b : JobInstance} {x y : JobConfig} {i k : Option Nat}

theorem runType_eq (h : a.NamedFor x i) : a.runType = x.runType := by
  cases h with
  | once hx ha => rw [hx, ha]
  | numbered _ ha => exact ha

theorem name_eq (h : a.NamedFor x i) (hx : x.runType = .single) : a.name = x.name := by
  cases h with
  | once _ _ hn => exact hn
  | numbered hs => exact absurd hx hs

theorem exists_index (h : a.NamedFor x i) (hx : x.runType ≠ .single) :
    ∃ k, i = some k ∧ a.name = instanceName x.name x.runType k := by
  cases h with
  | once hs => exact absurd hs hx
  | @numbered k _ _ hn => exact ⟨k, rfl, hn⟩

/-- Name and run type are all that counts. -/
theorem of_eq (h : a.NamedFor x i) (hn : b.name = a.name) (ht : b.runType = a.runType) :
    b.NamedFor x i := by
  cases h with
  | once hx ha hname => exact .once hx (ht.trans ha) (hn.trans hname)
  | numbered hx ha hname => exact .numbered hx (ht.trans ha) (hn.trans hname)

/-- The instance knows its job and its index. -/
theorem parts (h : a.NamedFor x i) (hx : x.name ≠ "") (hf : a.IndexFits) :
    a.baseName = x.name ∧ a.index? = i := by
  cases h with
  | once _ ha hn => exact ⟨(baseName_of_single ha).trans hn, index?_of_single ha⟩
  | @numbered k hs ha hn =>
    have hne : a.runType ≠ .single := by rw [ha]; exact hs
    rw [← ha] at hn
    exact baseName_of_name hx hne hn (hf x.name k hne hn)

end JobInstance.NamedFor

/-- The instance is one that the job has in these surroundings: its index does
not exceed a configured number, and an instance for all agents is bound to one
that carries the resources. -/
structure JobInstance.Fills (j : JobInstance) (s : Scheduling) (job : JobConfig)
    (i : Option Nat) : Prop where
  named : j.NamedFor job i
  counted : job.runType = .runMultipleInstance → i.getD 1 ≤ job.runInstanceCount.getD 1
  bound : job.runType = .runOnAllAgents →
    ∃ agent ∈ s.matching job.resources, j.agent = some agent.id

/-- The instances that instantiation makes of a job are instances of it. -/
theorem Scheduling.exists_fills {s : Scheduling} {stageName : String} {now : Instant}
    {job : JobConfig} {j : JobInstance} (hj : j ∈ s.expansion stageName now job) :
    ∃ i, j.Fills s job i := by
  cases expands_of_mem hj with
  | once hr => exact ⟨none, .once hr rfl rfl, by rw [hr]; exact nofun, by rw [hr]; exact nofun⟩
  | @onAgent k agent hr _ ha =>
    refine ⟨some k, .numbered ?_ hr.symm ?_, ?_, fun _ => ⟨agent, ha, rfl⟩⟩
    all_goals rw [hr]
    · exact nofun
    · rfl
    · exact nofun
  | @atIndex i hr hi =>
    refine ⟨some (i + 1), .numbered ?_ hr.symm ?_, fun _ => hi, ?_⟩
    all_goals rw [hr]
    · exact nofun
    · rfl
    · exact nofun

/-! ### Plain names -/

/-- The name is not empty and holds no marker, whatever the case of letters. -/
def IsPlainName (name : String) : Prop :=
  name ≠ "" ∧ ∀ runType : RunType, runType ≠ .single →
    ¬ (Text.asciiLower (marker runType)).toList <:+: (Text.asciiLower name).toList

theorem isPlainName_iff {name : String} : IsPlainName name ↔ name ≠ "" ∧
    ¬ (Text.asciiLower (marker .runOnAllAgents)).toList <:+: (Text.asciiLower name).toList ∧
      ¬ (Text.asciiLower (marker .runMultipleInstance)).toList <:+:
        (Text.asciiLower name).toList := by
  refine and_congr_right fun _ => ⟨fun h => ⟨h _ nofun, h _ nofun⟩, fun h runType hr => ?_⟩
  cases runType with
  | single => exact absurd rfl hr
  | runOnAllAgents => exact h.1
  | runMultipleInstance => exact h.2

instance (name : String) : Decidable (IsPlainName name) := decidable_of_iff' _ isPlainName_iff

/-! ### Names that end in an index -/

/-- The name ends in a marker and digits, whatever the case of letters. -/
def EndsInIndex (name : String) : Prop :=
  ∃ runType : RunType, runType ≠ .single ∧ ∃ base digits : List Char,
    digits ≠ [] ∧ (∀ c ∈ digits, c.isDigit = true) ∧
      (Text.asciiLower name).toList =
        base ++ (Text.asciiLower (marker runType)).toList ++ digits

section EndsInIndex

variable {name base : String} {runType : RunType} {k : Nat}

/-- Numbered instances have names that end in an index. -/
theorem endsInIndex_of_sameName (hr : runType ≠ .single)
    (h : Text.sameName name (instanceName base runType k) = true) : EndsInIndex name := by
  rw [Text.sameName_iff] at h
  refine ⟨runType, hr, (Text.asciiLower base).toList, Text.digitsOfNat k,
    Text.digitsOfNat_ne_nil k, fun _ => Text.isDigit_of_mem_digitsOfNat, ?_⟩
  rw [h, asciiLower_instanceName]

theorem IsPlainName.not_endsInIndex (h : IsPlainName name) : ¬ EndsInIndex name := by
  rintro ⟨runType, hr, base, digits, -, -, hn⟩
  exact h.2 runType hr ⟨base, digits, hn.symm⟩

/-- The digits are all that stand at the end, as a marker ends in a dash. -/
theorem endsInIndex_iff : EndsInIndex name ↔
    (Text.asciiLower name).toList.rtakeWhile Char.isDigit ≠ [] ∧
      ∃ runType ∈ [RunType.runOnAllAgents, .runMultipleInstance],
        (Text.asciiLower (marker runType)).toList <:+
          (Text.asciiLower name).toList.rdropWhile Char.isDigit := by
  constructor
  · rintro ⟨runType, hr, base, digits, hne, hdigits, hn⟩
    have hdash : ('-').isDigit = false := by decide
    have hmem : ∀ c ∈ digits.reverse, c.isDigit = true := fun c hc =>
      hdigits c (List.mem_reverse.mp hc)
    rw [asciiLower_marker hr] at hn
    have hrev : (Text.asciiLower name).toList.reverse =
        digits.reverse ++ '-' :: (base ++ markerStem runType).reverse := by
      rw [hn]
      simp
    refine ⟨?_, runType, ?_, ?_⟩
    · rw [List.rtakeWhile, hrev, Lists.takeWhile_append_cons hmem hdash]
      simpa using hne
    · cases runType with
      | single => exact absurd rfl hr
      | runOnAllAgents | runMultipleInstance => simp
    · rw [List.rdropWhile, hrev, Lists.dropWhile_append_cons hmem hdash, asciiLower_marker hr]
      exact ⟨base, by simp⟩
  · rintro ⟨hne, runType, hr, base, hn⟩
    refine ⟨runType, ?_, base, _, hne, fun c => List.mem_rtakeWhile_imp, ?_⟩
    · rintro rfl
      simp at hr
    · rw [hn, List.rdropWhile_append_rtakeWhile]

instance (name : String) : Decidable (EndsInIndex name) := decidable_of_iff' _ endsInIndex_iff

end EndsInIndex

namespace StageConfig

/-- All jobs have plain names, and no two of them the same. -/
structure IsPlain (config : StageConfig) : Prop where
  plain : ∀ job ∈ config.jobs, IsPlainName job.name
  differ : config.jobs.Pairwise fun a b => Text.sameName a.name b.name = false

variable {config : StageConfig}

/-- Jobs whose names are the same are the same job if names differ. -/
theorem eq_of_sameName (h : config.jobs.Pairwise fun a b => Text.sameName a.name b.name = false)
    {a b : JobConfig} (ha : a ∈ config.jobs) (hb : b ∈ config.jobs)
    (hab : Text.sameName a.name b.name = true) : a = b := by
  by_contra hne
  have hsymm : Std.Symm fun a b : JobConfig => Text.sameName a.name b.name = false :=
    ⟨fun _ _ => Text.sameName_false_symm⟩
  rw [h.forall ha hb hne] at hab
  cases hab

/-- Each job is found under its name if names differ. -/
theorem job?_name (h : config.jobs.Pairwise fun a b => Text.sameName a.name b.name = false)
    {job : JobConfig} (hj : job ∈ config.jobs) : config.job? job.name = some job := by
  cases hf : config.job? job.name with
  | none =>
    have := List.find?_eq_none.mp hf job hj
    exact absurd (Text.sameName_self _) this
  | some found =>
    unfold job? at hf
    have hs := List.find?_some hf
    rw [eq_of_sameName h (List.mem_of_find?_eq_some hf) hj hs]

end StageConfig

namespace JobInstance.NamedFor

variable {a b : JobInstance} {x y : JobConfig} {i k : Option Nat}

/-- Two instances have the same name only if their jobs have, and run types and
indices are equal. -/
theorem eq_of_sameName (ha : a.NamedFor x i) (hb : b.NamedFor y k)
    (hx : x.runType = .single → ¬ EndsInIndex x.name)
    (hy : y.runType = .single → ¬ EndsInIndex y.name) (h : Text.sameName a.name b.name = true) :
    Text.sameName x.name y.name = true ∧ a.runType = b.runType ∧ i = k := by
  cases ha with
  | once hsx hra hna =>
    cases hb with
    | once _ hrb hnb =>
      rw [hna, hnb] at h
      exact ⟨h, hra.trans hrb.symm, rfl⟩
    | numbered hs _ hnb =>
      rw [hna, hnb] at h
      exact absurd (endsInIndex_of_sameName hs h) (hx hsx)
  | numbered hs hra hna =>
    cases hb with
    | once hsy _ hnb =>
      rw [hna, hnb, Text.sameName_comm] at h
      exact absurd (endsInIndex_of_sameName hs h) (hy hsy)
    | numbered hs' hrb hnb =>
      rw [hna, hnb] at h
      obtain ⟨hr, hk, hn⟩ := sameName_instanceName hs hs' h
      exact ⟨hn, hra.trans (hr.trans hrb.symm), congrArg some hk⟩

end JobInstance.NamedFor
end StageRuns
