/-
# Collections that hold every key once

The jobs of a stage have different names, case of letters apart, and the agents of a pool
have different identities. They are collections of one kind: made of a list, they hold
just its members, or the first one is refused whose key an earlier one has
(`IsChecked`). A document says such a collection if its items are read and then the list
of them is accepted (`IsChecked.checked`).

However a collection is built, from lists and documents, by adding members of which some
are refused, by putting the members of one behind those of another, and by calls on its
jobs, no key is in it twice (`Jobs.namesDiffer_of_built`, `Agents.idsDiffer_of_built`).
So looking up a key finds the one member that has it.

Key definitions: `IsFirstRepeated`, `IsChecked`, `Jobs.Built`, `Agents.Built`.
Key theorems: `IsChecked.checked`, `Jobs.namesDiffer_append`, `Jobs.namesDiffer_called`,
`Jobs.namesDiffer_of_built`, `Agents.idsDiffer_of_built`, `built_keysDiffer`.
-/
import StageRuns.Codec.Job
import StageRuns.Proofs.Agents
import StageRuns.Proofs.Calls
import StageRuns.Proofs.Collection
import StageRuns.Proofs.Lists

namespace StageRuns

/-! ### What is made of a list -/

section Checked

variable {α γ ε : Type} {differs : α → α → Prop} {make : List α → γ} {xs : List α}

/-- The member has the key of an earlier one, and those before it have different keys. -/
def IsFirstRepeated (differs : α → α → Prop) (xs : List α) (x : α) : Prop :=
  ∃ before after, xs = before ++ x :: after ∧ before.Pairwise differs ∧
    ∃ y ∈ before, ¬ differs y x

/-- The list is taken as it is if all keys differ; otherwise the first member that repeats
one is refused. -/
structure IsChecked (differs : α → α → Prop) (make : List α → γ) (refuse : α → ε) (xs : List α)
    (outcome : Except ε γ) : Prop where
  ok_iff : ∀ c, outcome = .ok c ↔ xs.Pairwise differs ∧ c = make xs
  error_iff : ∀ e, outcome = .error e ↔ ∃ x, IsFirstRepeated differs xs x ∧ e = refuse x

/-- What is refused may be reported in another way. -/
theorem IsChecked.mapError {ε' : Type} {refuse : α → ε} {outcome : Except ε γ}
    (h : IsChecked differs make refuse xs outcome) (report : ε → ε') :
    IsChecked differs make (fun x => report (refuse x)) xs (outcome.mapError report) := by
  cases outcome with
  | ok c =>
    constructor
    · intro c'
      rw [Except.mapError, Except.ok.injEq, ← h.ok_iff c', Except.ok.injEq]
    · intro e
      constructor
      · intro he
        cases he
      · rintro ⟨x, hx, rfl⟩
        cases (h.error_iff (refuse x)).mpr ⟨x, hx, rfl⟩
  | error cause =>
    obtain ⟨x, hx, rfl⟩ := (h.error_iff cause).mp rfl
    constructor
    · intro c
      constructor
      · intro hc
        cases hc
      · intro hc
        cases (h.ok_iff c).mpr hc
    · intro e
      constructor
      · intro he
        cases he
        exact ⟨x, hx, rfl⟩
      · rintro ⟨y, hy, rfl⟩
        have hsame := (h.error_iff (refuse y)).mpr ⟨y, hy, rfl⟩
        rw [Except.error.inj hsame, Except.mapError]

/-- Where the items of a document are read, it says what the list of them is taken for, or
the item that is refused. -/
theorem IsChecked.checked {refuse : α → Failure} {check : List α → Except Failure γ}
    {items : Decoder (List α)} {d : Document} (h : IsChecked differs make refuse xs (check xs))
    (hitems : items d = .ok xs) :
    IsChecked differs make (fun x => Fault.refused (refuse x)) xs
      (Decode.checked items check d) := by
  have hread : Decode.checked items check d = (check xs).mapError Fault.refused := by
    rw [Decode.checked, hitems]
    simp only [bind, Except.bind]
    cases check xs
    all_goals rfl
  rw [hread]
  exact h.mapError Fault.refused

end Checked

/-! ### Jobs -/

namespace Jobs

variable {jobs : Jobs}

/-- The jobs after an attempt to add one more. -/
def offered (jobs : Jobs) (job : JobInstance) : Jobs :=
  match jobs.add job with
  | .ok next => next
  | .error _ => jobs

/-- The jobs come about by the operations that build them. A call is made on one of them in
place, and may fail. -/
inductive Built : Jobs → Prop
  | empty : Built empty
  | listed {js : List JobInstance} {jobs : Jobs} : ofList js = .ok jobs → Built jobs
  | decoded {d : Document} {jobs : Jobs} : Jobs.decode d = .ok jobs → Built jobs
  | offered {jobs : Jobs} (job : JobInstance) : Built jobs → Built (jobs.offered job)
  | appended {jobs more : Jobs} : Built jobs → Built more → Built (jobs.append more.members).1
  | called {before after : List JobInstance} {job : JobInstance} (call : JobInstance.Call) :
      Built ⟨before ++ job :: after⟩ → Built ⟨before ++ (job.applied call).2 :: after⟩

theorem isChecked_ofList (js : List JobInstance) :
    IsChecked JobInstance.NameDiffers Jobs.mk (fun j => Failure.duplicateJob j.name) js
      (ofList js) := by
  refine ⟨fun jobs => ofList_eq_ok, fun failure => ?_⟩
  rw [ofList_eq_error]
  simp only [FirstNameTaken, IsFirstRepeated, NamesDiffer, JobInstance.NameDiffers,
    Bool.not_eq_false]

theorem namesDiffer_add {job : JobInstance} {next : Jobs} (h : NamesDiffer jobs.members)
    (hadd : jobs.add job = .ok next) : NamesDiffer next.members := by
  obtain ⟨hd, rfl⟩ := add_eq_ok.mp hadd
  exact List.pairwise_append.mpr ⟨h, List.pairwise_singleton .., by simpa using hd⟩

theorem namesDiffer_offered (h : NamesDiffer jobs.members) (job : JobInstance) :
    NamesDiffer (jobs.offered job).members := by
  unfold offered
  split
  next next hadd => exact namesDiffer_add h hadd
  next => exact h

/-- So they do wherever adding others stops. -/
theorem namesDiffer_append : ∀ {jobs : Jobs} (more : List JobInstance),
    NamesDiffer jobs.members → NamesDiffer (jobs.append more).1.members
  | _, [], h => h
  | jobs, job :: more, h => by
    rw [append]
    split
    next next hadd => exact namesDiffer_append more (namesDiffer_add h hadd)
    next => exact h

/-- A call leaves all names. -/
theorem namesDiffer_called {before after : List JobInstance} {job : JobInstance}
    (call : JobInstance.Call) (h : NamesDiffer (before ++ job :: after)) :
    NamesDiffer (before ++ (job.applied call).2 :: after) := by
  simpa only [NamesDiffer, List.pairwise_append, List.pairwise_cons, List.forall_mem_cons,
    JobInstance.NameDiffers, job.name_applied call] using h

/-- However jobs are built, their names differ. -/
theorem namesDiffer_of_built (h : Built jobs) : NamesDiffer jobs.members := by
  induction h with
  | empty => exact .nil
  | listed hlist =>
    obtain ⟨hd, rfl⟩ := ofList_eq_ok.mp hlist
    exact hd
  | @decoded d jobs hdecode =>
    obtain ⟨js, hjs, -⟩ := Outcome.bind_eq_ok.mp hdecode
    obtain ⟨hd, rfl⟩ := (((isChecked_ofList js).checked hjs).ok_iff jobs).mp hdecode
    exact hd
  | offered job _ ih => exact namesDiffer_offered ih job
  | appended _ _ ih _ => exact namesDiffer_append _ ih
  | called call _ ih => exact namesDiffer_called call ih

/-- Where names differ, looking one up finds the job that has it. -/
theorem byName?_eq_some_iff (h : NamesDiffer jobs.members) (name : String) (job : JobInstance) :
    jobs.byName? name = some job ↔
      job ∈ jobs.members ∧ Text.sameName job.name name = true := by
  refine Lists.find?_eq_some_iff (h.imp fun {a b} hd ha => ?_)
  rw [JobInstance.NameDiffers, Text.sameName_congr ha] at hd
  exact Text.sameName_false_symm hd

end Jobs

/-! ### Agents -/

namespace Agents

variable {pool : Agents}

/-- The pool after an attempt to add one more agent. -/
def offered (pool : Agents) (agent : Agent) : Agents :=
  match pool.add agent with
  | .ok next => next
  | .error _ => pool

/-- The pool comes about by the operations that build it. -/
inductive Built : Agents → Prop
  | empty : Built empty
  | listed {agents : List Agent} {pool : Agents} : ofList agents = .ok pool → Built pool
  | decoded {d : Document} {pool : Agents} : Agents.decode d = .ok pool → Built pool
  | offered {pool : Agents} (agent : Agent) : Built pool → Built (pool.offered agent)

theorem isChecked_ofList (agents : List Agent) :
    IsChecked (fun a b : Agent => a.id ≠ b.id) Agents.mk (fun a => Failure.duplicateAgent a.id)
      agents (ofList agents) := by
  refine ⟨fun pool => ofList_eq_ok, fun failure => ?_⟩
  rw [ofList_eq_error]
  constructor
  · rintro ⟨before, a, after, hsplit, hd, ⟨b, hb, he⟩, rfl⟩
    exact ⟨a, ⟨before, after, hsplit, hd, b, hb, fun hne => hne he⟩, rfl⟩
  · rintro ⟨a, ⟨before, after, hsplit, hd, b, hb, he⟩, rfl⟩
    exact ⟨before, a, after, hsplit, hd, ⟨b, hb, not_not.mp he⟩, rfl⟩

theorem idsDiffer_offered (h : IdsDiffer pool.members) (agent : Agent) :
    IdsDiffer (pool.offered agent).members := by
  unfold offered
  split
  next next hadd =>
    obtain ⟨hd, rfl⟩ := add_eq_ok.mp hadd
    exact List.pairwise_append.mpr ⟨h, List.pairwise_singleton .., by simpa using hd⟩
  next => exact h

/-- However a pool is built, the identities differ. -/
theorem idsDiffer_of_built (h : Built pool) : IdsDiffer pool.members := by
  induction h with
  | empty => exact .nil
  | listed hlist => exact idsDiffer_of_ofList hlist
  | @decoded d pool hdecode =>
    obtain ⟨agents, hagents, -⟩ := Outcome.bind_eq_ok.mp hdecode
    obtain ⟨hd, rfl⟩ := (((isChecked_ofList agents).checked hagents).ok_iff pool).mp hdecode
    exact hd
  | offered agent _ ih => exact idsDiffer_offered ih agent

/-- Where identities differ, looking one up finds the agent that has it. -/
theorem byId?_eq_some_iff (h : IdsDiffer pool.members) (id : AgentId) (agent : Agent) :
    pool.byId? id = some agent ↔ agent ∈ pool.members ∧ agent.id = id := by
  have hfind : pool.byId? id = some agent ↔ agent ∈ pool.members ∧ (agent.id == id) = true := by
    refine Lists.find?_eq_some_iff (h.imp fun {a b} hd ha => ?_)
    rw [beq_iff_eq] at ha
    rw [beq_eq_false_iff_ne, ← ha]
    exact hd.symm
  rw [hfind, beq_iff_eq]

end Agents

/-! ### Both -/

/-- However jobs and pools are built, no key is in them twice, and looking up a key finds
the one member that has it. A list of jobs or agents is taken as it is exactly if no key
is there twice; otherwise the first member that repeats one is refused, with its key as it
has it. So is a document, once all its items are read. -/
theorem built_keysDiffer :
    (∀ jobs, Jobs.Built jobs → NamesDiffer jobs.members ∧ ∀ name job,
      jobs.byName? name = some job ↔ job ∈ jobs.members ∧ Text.sameName job.name name = true) ∧
    (∀ pool, Agents.Built pool → IdsDiffer pool.members ∧ ∀ id agent,
      pool.byId? id = some agent ↔ agent ∈ pool.members ∧ agent.id = id) ∧
    (∀ js, IsChecked JobInstance.NameDiffers Jobs.mk (fun j => Failure.duplicateJob j.name) js
      (Jobs.ofList js)) ∧
    (∀ agents, IsChecked (fun a b : Agent => a.id ≠ b.id) Agents.mk
      (fun a => Failure.duplicateAgent a.id) agents (Agents.ofList agents)) ∧
    (∀ d js, Decode.list JobInstance.decode d = .ok js →
      IsChecked JobInstance.NameDiffers Jobs.mk
        (fun j => Fault.refused (Failure.duplicateJob j.name)) js (Jobs.decode d)) ∧
    (∀ d agents, Decode.list Agent.decode d = .ok agents →
      IsChecked (fun a b : Agent => a.id ≠ b.id) Agents.mk
        (fun a => Fault.refused (Failure.duplicateAgent a.id)) agents (Agents.decode d)) := by
  refine ⟨fun jobs h => ?_, fun pool h => ?_, Jobs.isChecked_ofList, Agents.isChecked_ofList,
    fun d js h => (Jobs.isChecked_ofList js).checked h,
    fun d agents h => (Agents.isChecked_ofList agents).checked h⟩
  · have hd := Jobs.namesDiffer_of_built h
    exact ⟨hd, Jobs.byName?_eq_some_iff hd⟩
  · have hd := Agents.idsDiffer_of_built h
    exact ⟨hd, Agents.byId?_eq_some_iff hd⟩

/-- A job of a name, as it was created. -/
def freshJob (name : String) : JobInstance :=
  .create name { identifier := ⟨none, "s", name, .unsaved⟩ } .single ⟨0, 0⟩

/-- Two jobs, after the name of one was offered again in capitals. -/
def offeredTwice : Jobs :=
  ((Jobs.empty.offered (freshJob "build")).offered (freshJob "BUILD")).offered (freshJob "test")

/-- A document of three agents, the last with the identity of the first. -/
def agentsTwice : Document :=
  .array [.object [(.text "uuid", .text "a")], .object [(.text "uuid", .text "b")],
    .object [(.text "uuid", .text "a")]]

/-- The job in capitals is refused, in a document as well, and so is the last agent. -/
theorem built_keysDiffer_twice :
    (offeredTwice.names = ["build", "test"] ∧ NamesDiffer offeredTwice.members ∧
      offeredTwice.byName? "Test" = some (freshJob "test")) ∧
    (∃ pool, Agents.ofList [⟨⟨"a"⟩, "", "", []⟩] = .ok pool ∧ IdsDiffer pool.members) ∧
    Jobs.decode (.ofJson (.list JobInstance.toJson [freshJob "build", freshJob "BUILD"])) =
      .error (.refused (.duplicateJob "BUILD")) ∧
    Agents.decode agentsTwice = .error (.refused (.duplicateAgent ⟨"a"⟩)) := by
  obtain ⟨hjobs, hpool, -, hagents, hjobsRead, hagentsRead⟩ := built_keysDiffer
  have hbuilt : Jobs.Built offeredTwice := .offered _ (.offered _ (.offered _ .empty))
  have hone : Agents.ofList [⟨⟨"a"⟩, "", "", []⟩] = .ok ⟨[⟨⟨"a"⟩, "", "", []⟩]⟩ :=
    ((hagents _).ok_iff _).mpr ⟨List.pairwise_singleton .., rfl⟩
  have hitems : Decode.list JobInstance.decode
      (.ofJson (.list JobInstance.toJson [freshJob "build", freshJob "BUILD"])) =
        .ok [freshJob "build", freshJob "BUILD"] := by
    decide +kernel
  have hagentItems : Decode.list Agent.decode agentsTwice =
      .ok [⟨⟨"a"⟩, "", "", []⟩, ⟨⟨"b"⟩, "", "", []⟩, ⟨⟨"a"⟩, "", "", []⟩] := by
    decide +kernel
  refine ⟨⟨by decide +kernel, (hjobs _ hbuilt).1,
    ((hjobs _ hbuilt).2 "Test" (freshJob "test")).mpr (by decide +kernel)⟩,
    ⟨_, hone, (hpool _ (.listed hone)).1⟩, ?_, ?_⟩
  · exact ((hjobsRead _ _ hitems).error_iff _).mpr ⟨freshJob "BUILD",
      ⟨[freshJob "build"], [], rfl, List.pairwise_singleton .., freshJob "build", by decide,
        by decide +kernel⟩, rfl⟩
  · exact ((hagentsRead _ _ hagentItems).error_iff _).mpr ⟨⟨⟨"a"⟩, "", "", []⟩,
      ⟨[⟨⟨"a"⟩, "", "", []⟩, ⟨⟨"b"⟩, "", "", []⟩], [], rfl, by decide, ⟨⟨"a"⟩, "", "", []⟩,
        by decide, by decide⟩, rfl⟩

end StageRuns
