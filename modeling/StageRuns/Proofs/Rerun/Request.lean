/-
# A request is a set of names

What a rerun makes depends on the request only through the instances that it
selects, once all its names are known (`Scheduling.rerun_congr`). So neither the
order of the names nor their repetitions nor the case of their letters count, and
the name of a job, unless an instance has it too, may be spelled out: it stands
for the names of all instances of the job.

Key definitions: `SameNames`, `Stage.namesOf`.
Key theorems: `Scheduling.rerun_congr`, `Stage.selects_congr`,
`Stage.selects_spelledOut`, `Scheduling.rerun_sameNames`.
-/
import StageRuns.Proofs.Chain
import StageRuns.Proofs.Rerun.Stage

namespace StageRuns

/-- The lists hold the same names, case of letters apart. -/
def SameNames (request other : List String) : Prop :=
  ∀ key, key ∈ request.map Text.asciiLower ↔ key ∈ other.map Text.asciiLower

/-- The names of the instances of a job, in the order of the stage. -/
def Stage.namesOf (stage : Stage) (base : String) : List String :=
  (stage.jobs.members.filter fun j => Text.sameName j.baseName base).map (·.name)

instance (request other : List String) : Decidable (SameNames request other) :=
  decidable_of_iff
    ((∀ key ∈ request.map Text.asciiLower, key ∈ other.map Text.asciiLower) ∧
      ∀ key ∈ other.map Text.asciiLower, key ∈ request.map Text.asciiLower)
    ⟨fun h key => ⟨h.1 key, h.2 key⟩, fun h => ⟨fun key => (h key).mp, fun key => (h key).mpr⟩⟩

variable {request other : List String} {old : Stage}

theorem SameNames.symm (h : SameNames request other) : SameNames other request :=
  fun key => (h key).symm

theorem SameNames.exists_sameName (h : SameNames request other) {name : String}
    (hn : name ∈ request) : ∃ n ∈ other, Text.sameName name n = true := by
  obtain ⟨n, hn, hlower⟩ := List.mem_map.mp ((h _).mp (List.mem_map_of_mem hn))
  exact ⟨n, hn, Text.sameName_iff.mpr hlower.symm⟩

theorem SameNames.eq_nil (h : SameNames request other) (hr : request = []) : other = [] := by
  rw [List.eq_nil_iff_forall_not_mem]
  intro n hn
  obtain ⟨m, hm, -⟩ := h.symm.exists_sameName hn
  rw [hr] at hm
  cases hm

theorem SameNames.isEmpty_eq (h : SameNames request other) : request.isEmpty = other.isEmpty := by
  rw [Bool.eq_iff_iff, List.isEmpty_iff, List.isEmpty_iff]
  exact ⟨h.eq_nil, h.symm.eq_nil⟩

/-! ### What counts in a request -/

/-- Two requests that are both accepted, or refused for the same reason, and that
select the same instances have the same outcome. -/
theorem Scheduling.rerun_congr {s : Scheduling} {config : StageConfig} {configVersion : String}
    {now : Instant} (hcheck : old.checkRequest request = old.checkRequest other)
    (hselects : ∀ j ∈ old.jobs.members, old.selects request j = old.selects other j) :
    s.rerun old request config configVersion now = s.rerun old other config configVersion now := by
  have hselected : old.selected request = old.selected other := List.filter_congr hselects
  have hmerge : ∀ rs, mergeReplacements (old.selects request) config.keep rs [] old.jobs.members =
      mergeReplacements (old.selects other) config.keep rs [] old.jobs.members := fun rs => by
    rw [← List.forall₂_eq_eq_eq]
    exact forall₂_mergeReplacements (fun _ => rfl) [] hselects fun _ _ _ => rfl
  simp only [rerun, replacements, hcheck, hselected, hmerge]

namespace Stage

variable {stage : Stage} {name : String} {job : JobInstance}

/-! ### Case, order and repetitions -/

theorem isNamed_congr {n : String} (h : Text.sameName name n = true) (job : JobInstance) :
    stage.isNamed name job = stage.isNamed n job := by
  have hcompare : ∀ a, Text.sameName a name = Text.sameName a n := fun a => by
    rw [Text.sameName_comm, Text.sameName_congr h, Text.sameName_comm]
  have hhas : stage.jobs.has name = stage.jobs.has n := by
    simp only [Jobs.has, Jobs.byName?, hcompare]
  rw [isNamed, isNamed, hhas, hcompare, hcompare]

/-- The case, the order and the repetitions of names make no difference to what is
selected. -/
theorem selects_congr (h : SameNames request other) (job : JobInstance) :
    stage.selects request job = stage.selects other job := by
  have himp : ∀ {r o : List String}, SameNames r o → stage.selects r job = true →
      stage.selects o job = true := fun h hs => by
    obtain ⟨n, hn, hnamed⟩ := List.any_eq_true.mp hs
    obtain ⟨m, hm, hnm⟩ := h.exists_sameName hn
    exact List.any_eq_true.mpr ⟨m, hm, by rw [← isNamed_congr hnm, hnamed]⟩
  exact Bool.eq_iff_iff.mpr ⟨himp h, himp h.symm⟩

theorem find?_unknown {names : List String} (h : ∀ n ∈ names, stage.Knows n) :
    (names.find? fun n => !stage.knows n) = none := by
  rw [List.find?_eq_none]
  intro n hn
  rw [knows_iff.mpr (exists_names_iff.mpr (h n hn))]
  exact Bool.false_ne_true

theorem checkRequest_congr (h : SameNames request other) (hr : ∀ n ∈ request, stage.Knows n)
    (ho : ∀ n ∈ other, stage.Knows n) : stage.checkRequest request = stage.checkRequest other := by
  rw [checkRequest, checkRequest, h.isEmpty_eq, find?_unknown hr, find?_unknown ho]

/-! ### Jobs spelled out -/

theorem knows_of_mem_namesOf {n : String} (h : n ∈ stage.namesOf name) : stage.Knows n := by
  obtain ⟨j, hj, rfl⟩ := List.mem_map.mp h
  exact ⟨j, (List.mem_filter.mp hj).1, .inl (Text.sameName_self _)⟩

/-- The name of a job that no instance has stands for just the instances that the
names of its instances stand for. -/
theorem isNamed_eq_any_namesOf (hdiffer : NamesDiffer stage.jobs.members)
    (hfree : ∀ j ∈ stage.jobs.members, Text.sameName j.name name = false)
    (hjob : job ∈ stage.jobs.members) :
    stage.isNamed name job = (stage.namesOf name).any fun n => stage.isNamed n job := by
  rw [isNamed, Jobs.has_eq_false.mpr hfree, if_neg Bool.false_ne_true, Bool.eq_iff_iff,
    List.any_eq_true]
  constructor
  · intro hbase
    refine ⟨job.name, List.mem_map_of_mem (List.mem_filter.mpr ⟨hjob, hbase⟩), ?_⟩
    exact (isNamed_iff hjob).mpr (.inl (Text.sameName_self _))
  · rintro ⟨n, hn, hnamed⟩
    obtain ⟨k, hk, rfl⟩ := List.mem_map.mp hn
    obtain ⟨hk, hbase⟩ := List.mem_filter.mp hk
    -- the name of an instance stands for that instance alone
    rcases (isNamed_iff hjob).mp hnamed with hname | ⟨hno, -⟩
    · rwa [hdiffer.eq_of_sameName hjob hk hname]
    · have := hno k hk
      rw [Text.sameName_self] at this
      cases this

theorem selects_spelledOut (hdiffer : NamesDiffer stage.jobs.members)
    (hfree : ∀ j ∈ stage.jobs.members, Text.sameName j.name name = false)
    (before after : List String) (hjob : job ∈ stage.jobs.members) :
    stage.selects (before ++ name :: after) job =
      stage.selects (before ++ stage.namesOf name ++ after) job := by
  simp only [selects, List.any_append, List.any_cons, Bool.or_assoc,
    isNamed_eq_any_namesOf hdiffer hfree hjob]

theorem checkRequest_spelledOut
    (hbase : ∃ j ∈ stage.jobs.members, Text.sameName j.baseName name = true)
    (before after : List String) :
    stage.checkRequest (before ++ name :: after) =
      stage.checkRequest (before ++ stage.namesOf name ++ after) := by
  obtain ⟨j, hj, hjb⟩ := hbase
  have hname : stage.Knows name := ⟨j, hj, .inr hjb⟩
  have hne : stage.namesOf name ≠ [] :=
    List.ne_nil_of_mem (List.mem_map_of_mem (List.mem_filter.mpr ⟨hj, hjb⟩))
  have hfind : ((before ++ name :: after).find? fun n => !stage.knows n) =
      (before ++ stage.namesOf name ++ after).find? fun n => !stage.knows n := by
    have hcons : name :: after = [name] ++ after := rfl
    have hone : ∀ n ∈ [name], stage.Knows n := List.forall_mem_singleton.mpr hname
    have hall : ∀ n ∈ stage.namesOf name, stage.Knows n := fun _ => knows_of_mem_namesOf
    rw [hcons, List.append_assoc, List.find?_append, List.find?_append, List.find?_append,
      List.find?_append, find?_unknown hone, find?_unknown hall]
  simp [checkRequest, hfind, hne]

end Stage

/-- Requests of known names that hold the same names, in whatever order, case and
number, have the same outcome. So have requests one of which has the name of a job,
which no instance has, where the other one has the names of all instances of that job.
(No two instances of a stage have the same name: `Jobs.add` refuses the second.) -/
theorem Scheduling.rerun_sameNames (s : Scheduling) (old : Stage) (config : StageConfig)
    (configVersion : String) (now : Instant) :
    (∀ request other : List String, (∀ name ∈ request, old.Knows name) →
      (∀ name ∈ other, old.Knows name) → SameNames request other →
        s.rerun old request config configVersion now =
          s.rerun old other config configVersion now) ∧
    (NamesDiffer old.jobs.members → ∀ (before : List String) (base : String) (after : List String),
      (∃ j ∈ old.jobs.members, Text.sameName j.baseName base = true) →
      (∀ j ∈ old.jobs.members, Text.sameName j.name base = false) →
        s.rerun old (before ++ base :: after) config configVersion now =
          s.rerun old (before ++ old.namesOf base ++ after) config configVersion now) := by
  refine ⟨fun request other hr ho h => ?_, fun hdiffer before base after hbase hfree => ?_⟩
  · exact rerun_congr (Stage.checkRequest_congr h hr ho) fun j _ => Stage.selects_congr h j
  · exact rerun_congr (Stage.checkRequest_spelledOut hbase before after)
      fun j hj => Stage.selects_spelledOut hdiffer hfree before after hj

/-- Job `a` ran on two agents. To request it by its name, in any case and order and
twice, or by the names of both of its instances makes one and the same stage. -/
theorem Scheduling.rerun_sameNames_passedOnTwoAgents : ∃ new,
    twoAgents.rerun passedOnTwoAgents ["b", "A"] agentsAndOnce "2" ⟨2, 0⟩ = .ok new ∧
    twoAgents.rerun passedOnTwoAgents ["a", "B", "a"] agentsAndOnce "2" ⟨2, 0⟩ = .ok new ∧
    passedOnTwoAgents.namesOf "A" = ["a-runOnAll-1", "a-runOnAll-2"] ∧
    twoAgents.rerun passedOnTwoAgents ["b", "a-runOnAll-1", "a-runOnAll-2"] agentsAndOnce "2"
      ⟨2, 0⟩ = .ok new := by
  obtain ⟨new, hnew⟩ : ∃ new,
      twoAgents.rerun passedOnTwoAgents ["b", "A"] agentsAndOnce "2" ⟨2, 0⟩ = .ok new :=
    Outcome.exists_of_isOk (by decide +kernel)
  have hnames : passedOnTwoAgents.namesOf "A" = ["a-runOnAll-1", "a-runOnAll-2"] := by
    decide +kernel
  obtain ⟨hsame, hspelled⟩ := rerun_sameNames twoAgents passedOnTwoAgents agentsAndOnce "2" ⟨2, 0⟩
  have hcase := hsame ["b", "A"] ["a", "B", "a"] (by decide +kernel) (by decide +kernel)
    (by decide +kernel)
  have hjob := hspelled (by decide +kernel) ["b"] "A" [] (by decide +kernel) (by decide +kernel)
  rw [hnames] at hjob
  exact ⟨new, hnew, hcase ▸ hnew, hnames, hjob ▸ hnew⟩

end StageRuns
