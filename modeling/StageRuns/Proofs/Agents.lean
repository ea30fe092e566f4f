/-
# Pools of agents

A pool is made of listed agents exactly if no identity is there twice
(`Agents.ofList_eq_ok`), so the agents that match some requirements have
different identities, too. Otherwise the first agent whose identity is taken is
refused (`Agents.ofList_eq_error`).

Key definitions: `IdsDiffer`.
Key theorems: `Agents.ofList_eq_ok`, `Agents.ofList_eq_error`,
`Agents.idsDiffer_matching`.
-/
import StageRuns.Agent
import StageRuns.Proofs.Outcome

namespace StageRuns

/-- No two of the agents have the same identity. -/
def IdsDiffer (agents : List Agent) : Prop := agents.Pairwise fun a b => a.id ≠ b.id

namespace Agents

variable {pool all : Agents} {agent : Agent} {agents : List Agent}

theorem has_eq_false {id : AgentId} : pool.has id = false ↔ ∀ a ∈ pool.members, a.id ≠ id := by
  rw [has, byId?, Option.isSome_eq_false_iff, Option.isNone_iff_eq_none, List.find?_eq_none]
  simp

theorem add_eq_ok : pool.add agent = .ok all ↔
    (∀ a ∈ pool.members, a.id ≠ agent.id) ∧ all = ⟨pool.members ++ [agent]⟩ := by
  unfold add
  by_cases h : pool.has agent.id = true
  · rw [if_pos h]
    refine ⟨nofun, fun ⟨hd, _⟩ => ?_⟩
    rw [has_eq_false.mpr hd] at h
    cases h
  · rw [if_neg h]
    rw [Bool.not_eq_true, has_eq_false] at h
    exact ⟨fun ha => ⟨h, by cases ha; rfl⟩, fun ⟨_, ha⟩ => by rw [ha]⟩

theorem add_eq_error {failure : Failure} : pool.add agent = .error failure ↔
    (∃ a ∈ pool.members, a.id = agent.id) ∧ failure = .duplicateAgent agent.id := by
  unfold add
  by_cases h : pool.has agent.id = true
  · have hex : ∃ a ∈ pool.members, a.id = agent.id := by
      by_contra hno
      rw [has_eq_false.mpr fun a ha he => hno ⟨a, ha, he⟩] at h
      cases h
    rw [if_pos h]
    exact ⟨fun hf => ⟨hex, by cases hf; rfl⟩, fun hf => by rw [hf.2]⟩
  · rw [if_neg h]
    rw [Bool.not_eq_true, has_eq_false] at h
    exact ⟨nofun, fun ⟨⟨a, ha, he⟩, _⟩ => absurd he (h a ha)⟩

theorem foldlM_add_eq_ok : ∀ {agents : List Agent} {pool all : Agents}, IdsDiffer pool.members →
    (agents.foldlM add pool = .ok all ↔
      IdsDiffer (pool.members ++ agents) ∧ all = ⟨pool.members ++ agents⟩)
  | [], pool, all, hp => by
    rw [List.foldlM_nil, List.append_nil]
    exact ⟨fun h => ⟨hp, by cases h; rfl⟩, fun h => by rw [h.2]; rfl⟩
  | agent :: agents, pool, all, hp => by
    rw [List.foldlM_cons, Outcome.bind_eq_ok]
    have hassoc : pool.members ++ agent :: agents = (pool.members ++ [agent]) ++ agents := by simp
    constructor
    · rintro ⟨next, hadd, hrest⟩
      obtain ⟨hd, rfl⟩ := add_eq_ok.mp hadd
      have hnext : IdsDiffer (pool.members ++ [agent]) :=
        List.pairwise_append.mpr ⟨hp, List.pairwise_singleton .., fun a ha b hb => by
          rw [List.mem_singleton.mp hb]
          exact hd a ha⟩
      rw [hassoc]
      exact (foldlM_add_eq_ok hnext).mp hrest
    · rintro ⟨hall, rfl⟩
      rw [hassoc] at hall ⊢
      have hnext := (List.pairwise_append.mp hall).1
      have hd := (List.pairwise_append.mp hnext).2.2
      exact ⟨_, add_eq_ok.mpr ⟨fun a ha => hd a ha agent (List.mem_singleton_self _), rfl⟩,
        (foldlM_add_eq_ok hnext).mpr ⟨hall, rfl⟩⟩

/-- Listed agents are a pool exactly if their identities differ. -/
theorem ofList_eq_ok : ofList agents = .ok pool ↔ IdsDiffer agents ∧ pool = ⟨agents⟩ := by
  have hnil : IdsDiffer empty.members := .nil
  exact foldlM_add_eq_ok hnil

/-- Listed agents are not a pool if an identity is there twice; the first agent that has
the identity of an earlier one is refused. -/
theorem ofList_eq_error {failure : Failure} : ofList agents = .error failure ↔
    ∃ before a after, agents = before ++ a :: after ∧ IdsDiffer before ∧
      (∃ b ∈ before, b.id = a.id) ∧ failure = .duplicateAgent a.id := by
  have hnil : IdsDiffer empty.members := .nil
  rw [ofList, Outcome.foldlM_eq_error]
  constructor
  · rintro ⟨before, a, after, pool, rfl, hbefore, hadd⟩
    obtain ⟨hd, rfl⟩ := (foldlM_add_eq_ok hnil).mp hbefore
    obtain ⟨hex, rfl⟩ := add_eq_error.mp hadd
    exact ⟨before, a, after, rfl, hd, hex, rfl⟩
  · rintro ⟨before, a, after, rfl, hd, hex, rfl⟩
    exact ⟨before, a, after, ⟨before⟩, rfl, (foldlM_add_eq_ok hnil).mpr ⟨hd, rfl⟩,
      add_eq_error.mpr ⟨hex, rfl⟩⟩

theorem idsDiffer_of_ofList (h : ofList agents = .ok pool) : IdsDiffer pool.members := by
  obtain ⟨hd, rfl⟩ := ofList_eq_ok.mp h
  exact hd

theorem idsDiffer_matching (h : IdsDiffer pool.members) (required : List String) :
    IdsDiffer (pool.matching required) :=
  List.Pairwise.filter _ h

end Agents
end StageRuns
