/-
# Agents that have the resources

Resources are compared by their tags: trimmed, in lower case. What a list of resources asks
for, and what it gives to an agent, depends on the set of its tags alone
(`Agent.hasAll_iff`, `mem_resourceTags`). Lists of the same resources, in another order,
repeated, in other case or with blanks around them, have the same tags
(`SameResources.resourceTags_eq`). So they find the same agents, and an agent that is made with
one of them is the agent that is read from a document that lists the other
(`matching_sameResources`).

Key definitions: `SameResource`, `SameResources`.
Key theorems: `SameResources.resourceTags_eq`, `Agent.hasAll_iff`, `Agents.matching_append`,
`Agent.reads_sameResources`, `matching_sameResources`.
-/
import Mathlib.Data.List.Sort
import StageRuns.Proofs.CheckedCollections
import StageRuns.Proofs.Codec.ReadBack

namespace StageRuns

variable {r s : String} {rs ss : List String}

/-- The texts name one resource: they are the same up to the blanks around them and the case
of the letters A to Z. -/
def SameResource (r s : String) : Prop := Text.sameName (Text.trim r) (Text.trim s) = true

instance (r s : String) : Decidable (SameResource r s) := inferInstanceAs (Decidable (_ = _))

/-- The lists name the same resources, in any order, and any number of times. -/
structure SameResources (rs ss : List String) : Prop where
  left : ∀ r ∈ rs, ∃ s ∈ ss, SameResource r s
  right : ∀ s ∈ ss, ∃ r ∈ rs, SameResource r s

/-! ### Tags -/

theorem resourceTag_eq (h : SameResource r s) : resourceTag r = resourceTag s :=
  Text.lower_of_sameName h

theorem SameResources.resourceTags_eq (h : SameResources rs ss) :
    resourceTags rs = resourceTags ss := by
  apply List.Pairwise.eq_of_mem_iff (areTags_resourceTags rs).rising
    (areTags_resourceTags ss).rising
  intro t
  rw [mem_resourceTags, mem_resourceTags]
  constructor
  · rintro ⟨r, hr, rfl⟩
    obtain ⟨s, hs, hsame⟩ := h.left r hr
    exact ⟨s, hs, (resourceTag_eq hsame).symm⟩
  · rintro ⟨s, hs, rfl⟩
    obtain ⟨r, hr, hsame⟩ := h.right s hs
    exact ⟨r, hr, resourceTag_eq hsame⟩

namespace Agent

variable {a : Agent} {required : List String}

/-- An agent has what is required if the tags of that are among its own. -/
theorem hasAll_iff : a.hasAll required = true ↔ ∀ t ∈ resourceTags required, t ∈ a.resources := by
  simp [hasAll, mem_resourceTags]

theorem hasAll_congr (h : SameResources rs ss) (a : Agent) : a.hasAll rs = a.hasAll ss := by
  rw [Bool.eq_iff_iff, hasAll_iff, hasAll_iff, h.resourceTags_eq]

theorem hasAll_append (a : Agent) (rs ss : List String) :
    a.hasAll (rs ++ ss) = (a.hasAll rs && a.hasAll ss) :=
  List.all_append

theorem areTags_withResources (a : Agent) (resources : List String) :
    AreTags (a.withResources resources).resources :=
  areTags_resourceTags resources

/-- An agent is read from a document that lists its resources in any way. -/
theorem reads_sameResources (h : SameResources rs ss) (a : Agent) :
    Reads decode shape { a with resources := ss }.toJson (a.withResources rs) := by
  have hread := a.reads_listed ss
  rw [withResources, ← h.resourceTags_eq] at hread
  exact hread

end Agent

/-! ### The agents of a pool -/

namespace Agents

variable {pool : Agents} {a : Agent} {required : List String}

theorem mem_matching : a ∈ pool.matching required ↔
    a ∈ pool.members ∧ ∀ r ∈ required, resourceTag r ∈ a.resources := by
  simp [matching, Agent.hasAll]

/-- Whoever has more resources is among those who have some of them. -/
theorem matching_append (pool : Agents) (rs ss : List String) :
    pool.matching (rs ++ ss) = (pool.matching rs).filter fun a => a.hasAll ss := by
  simp only [matching, Agent.hasAll_append, List.filter_filter, Bool.and_comm]

theorem matching_congr (h : SameResources rs ss) (pool : Agents) :
    pool.matching rs = pool.matching ss := by
  simp only [matching, Agent.hasAll_congr h]

/-- Agents with different identities are different agents. -/
theorem nodup_of_idsDiffer {agents : List Agent} (h : IdsDiffer agents) : agents.Nodup :=
  h.imp fun hne heq => hne (congrArg Agent.id heq)

end Agents

/-- The agents of a pool that match are those that carry the trimmed, lower-case form of each
required resource, each once and in the order of the pool. Requirements that name the same
resources find the same agents, and further ones leave those out that do not have them.
Agents that are made with, or read with, the same resources are equal, and an agent is read
from its own text. -/
theorem matching_sameResources :
    (∀ (pool : Agents) (required : List String),
      (pool.matching required).Sublist pool.members ∧
      (∀ a, a ∈ pool.matching required ↔
        a ∈ pool.members ∧ ∀ r ∈ required, Text.lower (Text.trim r) ∈ a.resources) ∧
      (pool.Built → (pool.matching required).Nodup)) ∧
    (∀ (pool : Agents) (rs ss : List String), SameResources rs ss →
      pool.matching rs = pool.matching ss) ∧
    (∀ (pool : Agents) (rs ss : List String),
      pool.matching (rs ++ ss) = (pool.matching rs).filter fun a => a.hasAll ss) ∧
    ∀ (a : Agent) (rs ss : List String), SameResources rs ss →
      (∀ t, t ∈ (a.withResources rs).resources ↔ ∃ r ∈ rs, Text.lower (Text.trim r) = t) ∧
      a.withResources ss = a.withResources rs ∧
      (∀ d : Document, Says Agent.shape { a with resources := ss }.toJson d →
        Agent.decode d = .ok (a.withResources rs)) ∧
      ReadsBack Agent.decode { a with resources := ss }.toJson (a.withResources rs) ∧
      ReadsBack Agent.decode (a.withResources rs).toJson (a.withResources rs) := by
  refine ⟨fun pool required => ⟨List.filter_sublist, fun a => Agents.mem_matching, fun h => ?_⟩,
    fun pool _ _ h => Agents.matching_congr h pool, Agents.matching_append, fun a rs ss h => ?_⟩
  · apply Agents.nodup_of_idsDiffer
    exact Agents.idsDiffer_matching (Agents.idsDiffer_of_built h) required
  · have hlisted := Agent.reads_sameResources h a
    have hown := Agent.reads (a.areTags_withResources rs)
    refine ⟨fun t => mem_resourceTags, ?_, hlisted,
      readsBack_of_reads hlisted (Agent.readable _), readsBack_of_reads hown (Agent.readable _)⟩
    rw [Agent.withResources, ← h.resourceTags_eq]
    rfl

/-- An agent without resources. -/
def bareAgent : Agent := ⟨⟨"a"⟩, "", "", []⟩

/-- Two resources, one of them in two spellings. -/
def twiceAsked : List String := [" GPU", "linux", "Linux"]

/-- The same resources. -/
def onceAsked : List String := ["LINUX\t", "gpu"]

theorem sameResources_asked : SameResources twiceAsked onceAsked where
  left := by decide +kernel
  right := by decide +kernel

/-- A pool of which one agent has both resources. -/
def askedPool : Agents :=
  ⟨[⟨⟨"b"⟩, "", "", ["linux"]⟩, bareAgent.withResources twiceAsked]⟩

/-- An object that lists them for the agent, without a host and an address. -/
def askedAround : Json :=
  .object [("resources", .texts onceAsked), ("uuid", .text "a")]

theorem says_askedAround :
    Says Agent.shape { bareAgent with resources := onceAsked }.toJson (.ofJson askedAround) :=
  @Says.record _ _ [("uuid", .text "a"), ("resources", .array [.text "LINUX\t", .text "gpu"])] [] _
    (.kept .unchanged (.dropped (.dropped (.kept .unchanged .nil)))) nofun (List.reverse_perm _)

/-- The agent with both is found in either way, and read from the object. -/
theorem matching_sameResources_asked :
    (askedPool.matching twiceAsked).Nodup ∧
    bareAgent.withResources twiceAsked ∈ askedPool.matching twiceAsked ∧
    askedPool.matching twiceAsked = askedPool.matching onceAsked ∧
    Agent.decode (.ofJson askedAround) = .ok (bareAgent.withResources twiceAsked) ∧
    ReadsBack Agent.decode (bareAgent.withResources twiceAsked).toJson
      (bareAgent.withResources twiceAsked) := by
  obtain ⟨hfound, hsame, -, hread⟩ := matching_sameResources
  have hlist : Agents.ofList askedPool.members = .ok askedPool := by decide +kernel
  obtain ⟨-, hmem, hnodup⟩ := hfound askedPool twiceAsked
  obtain ⟨-, -, hdecode, -, hback⟩ := hread bareAgent _ _ sameResources_asked
  exact ⟨hnodup (.listed hlist), (hmem _).mpr (by decide +kernel),
    hsame askedPool _ _ sameResources_asked, hdecode _ says_askedAround, hback⟩

end StageRuns
