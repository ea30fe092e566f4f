/-
# Tags and properties in order

The tags of an agent stand in rising order, each once, and each is what it would become as
a resource. A list of that kind is left as it is when its tags are taken again
(`resourceTags_eq_self`), and all tags are of that kind (`areTags_resourceTags`). The
properties of a profile that stand in the order of their names are left as they are when
they are put in that order again (`Properties.ofPairs_eq_self`).

Key definitions: `AreTags`, `Properties.AreInOrder`.
Key theorems: `areTags_resourceTags`, `resourceTags_eq_self`, `Properties.ofPairs_eq_self`.
-/
import Mathlib.Data.String.Basic
import StageRuns.Agent
import StageRuns.Profile
import StageRuns.Proofs.Text

namespace StageRuns

/-- The tags are in rising order, each once, and in the form in which resources are kept. -/
structure AreTags (tags : List String) : Prop where
  rising : tags.Pairwise (· < ·)
  normal : ∀ t ∈ tags, resourceTag t = t

variable {tag : String} {tags : List String}

@[simp] theorem mem_insertTag {t : String} : t ∈ insertTag tag tags ↔ t = tag ∨ t ∈ tags := by
  induction tags with
  | nil => simp [insertTag]
  | cons u us ih =>
    unfold insertTag
    by_cases hlt : tag < u
    · simp [hlt]
    by_cases heq : tag = u
    · simp [heq]
    · simp [hlt, heq, ih, or_left_comm]

theorem pairwise_insertTag : ∀ {tags : List String}, tags.Pairwise (· < ·) →
    (insertTag tag tags).Pairwise (· < ·)
  | [], _ => List.pairwise_singleton ..
  | u :: us, h => by
    obtain ⟨hu, hus⟩ := List.pairwise_cons.mp h
    unfold insertTag
    split
    case isTrue hlt =>
      refine List.pairwise_cons.mpr ⟨fun t ht => ?_, h⟩
      rcases List.mem_cons.mp ht with rfl | ht
      · exact hlt
      · exact lt_trans hlt (hu t ht)
    split
    case isTrue => exact h
    case isFalse hle hne =>
      refine List.pairwise_cons.mpr ⟨fun t ht => ?_, pairwise_insertTag hus⟩
      rcases mem_insertTag.mp ht with rfl | ht
      · exact lt_of_le_of_ne (not_lt.mp hle) (Ne.symm hne)
      · exact hu t ht

theorem areTags_insertTag (h : AreTags tags) (resource : String) :
    AreTags (insertTag (resourceTag resource) tags) where
  rising := pairwise_insertTag h.rising
  normal t ht := by
    rcases mem_insertTag.mp ht with rfl | ht
    · exact Text.lower_trim_idem resource
    · exact h.normal t ht

/-- The tags of resources are tags. -/
theorem areTags_resourceTags (resources : List String) : AreTags (resourceTags resources) :=
  List.foldlRecOn resources _ ⟨.nil, nofun⟩ fun _ h r _ => areTags_insertTag h r

theorem mem_foldl_insertTag {t : String} (resources before : List String) :
    t ∈ resources.foldl (fun tags r => insertTag (resourceTag r) tags) before ↔
      t ∈ before ∨ ∃ r ∈ resources, resourceTag r = t := by
  induction resources generalizing before with
  | nil => simp
  | cons r rs ih =>
    rw [List.foldl_cons, ih, mem_insertTag, eq_comm (a := t)]
    simp [or_assoc, or_left_comm]

theorem mem_resourceTags {t : String} {resources : List String} :
    t ∈ resourceTags resources ↔ ∃ r ∈ resources, resourceTag r = t := by
  simp [resourceTags, mem_foldl_insertTag]

theorem insertTag_of_forall_lt : ∀ {tags : List String}, (∀ t ∈ tags, t < tag) →
    insertTag tag tags = tags ++ [tag]
  | [], _ => rfl
  | u :: us, h => by
    obtain ⟨hu, hus⟩ := List.forall_mem_cons.mp h
    rw [insertTag, if_neg (lt_asymm hu), if_neg (ne_of_gt hu), insertTag_of_forall_lt hus]
    rfl

theorem foldl_insertTag_of_rising : ∀ {tags : List String} (before : List String),
    (before ++ tags).Pairwise (· < ·) → (∀ t ∈ tags, resourceTag t = t) →
      tags.foldl (fun tags r => insertTag (resourceTag r) tags) before = before ++ tags
  | [], before, _, _ => (List.append_nil before).symm
  | t :: ts, before, hrising, hnormal => by
    obtain ⟨ht, hts⟩ := List.forall_mem_cons.mp hnormal
    have hbefore : ∀ u ∈ before, u < t := fun u hu =>
      (List.pairwise_append.mp hrising).2.2 u hu t List.mem_cons_self
    rw [List.foldl_cons, ht, insertTag_of_forall_lt hbefore,
      foldl_insertTag_of_rising (before ++ [t]) (by simpa using hrising) hts]
    simp

/-- Tags are left as they are. -/
theorem resourceTags_eq_self (h : AreTags tags) : resourceTags tags = tags :=
  foldl_insertTag_of_rising [] h.rising h.normal

namespace Properties

/-- The properties stand in the order of their names, each name once. -/
def AreInOrder (ps : Properties) : Prop := List.Pairwise (fun p q => p.1 < q.1) ps

instance (ps : Properties) : Decidable ps.AreInOrder :=
  inferInstanceAs (Decidable (List.Pairwise _ _))

variable {ps : Properties} {name value : String}

theorem insert_of_forall_lt : ∀ {ps : Properties}, (∀ p ∈ ps, p.1 < name) →
    insert name value ps = ps ++ [(name, value)]
  | [], _ => rfl
  | (n, v) :: qs, h => by
    obtain ⟨hn, hqs⟩ := List.forall_mem_cons.mp h
    rw [insert, if_neg (lt_asymm hn), if_neg (ne_of_gt hn), insert_of_forall_lt hqs]
    rfl

theorem foldl_insert_of_inOrder : ∀ {ps : Properties} (before : Properties),
    AreInOrder (before ++ ps) → ps.foldl (fun ps p => insert p.1 p.2 ps) before = before ++ ps
  | [], before, _ => (List.append_nil before).symm
  | p :: ps, before, h => by
    have hbefore : ∀ q ∈ before, q.1 < p.1 := fun q hq =>
      (List.pairwise_append.mp h).2.2 q hq p List.mem_cons_self
    rw [List.foldl_cons, insert_of_forall_lt hbefore,
      foldl_insert_of_inOrder (before ++ [p]) (by simpa using h)]
    simp

/-- Properties in order are left as they are. -/
theorem ofPairs_eq_self (h : AreInOrder ps) : ofPairs ps = ps := foldl_insert_of_inOrder [] h

end Properties
end StageRuns
