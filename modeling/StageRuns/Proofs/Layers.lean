/-
# With and without a layer

A list of variables is told by the order of its names and by the variables that it
has of each name (`Variables.eq_of_named`). To put a layer on a list brings the names
that are new to it to the end (`Variables.names_overriddenBy_append`) and changes at
most the first variable of a name (`Variables.tail_named_overriddenBy`). So two layers
may be put on one after the other or, if the lower one holds no name twice, be merged
before (`Variables.overriddenBy_merged`).

When a layer in the middle is left out, a variable changes exactly if the layer holds
its name, nothing above it does, and what is below has something else for it
(`Variables.first?_leftOut_iff`). The whole list stays exactly if no variable changes
and the names that the layer brings are those that come next without it
(`Variables.leftOut_eq_iff`).

Key definitions: `Variables.brought`.
Key theorems: `Variables.eq_of_named`, `Variables.names_overriddenBy_append`,
`Variables.overriddenBy_merged`, `Variables.first?_leftOut_iff`,
`Variables.leftOut_eq_iff`.
-/
import StageRuns.Proofs.Variables

namespace StageRuns
namespace Variables

/-! ### Names that occur first -/

theorem eraseDups_filter (p : String → Bool) : ∀ names : List String,
    (names.filter p).eraseDups = names.eraseDups.filter p
  | [] => rfl
  | name :: names => by
    have ih := eraseDups_filter p (names.filter fun other => !other == name)
    rw [List.filter_filter] at ih
    rw [List.eraseDups_cons, List.filter_cons, List.filter_cons, ← ih]
    by_cases hp : p name = true
    · rw [if_pos hp, if_pos hp, List.eraseDups_cons, List.filter_filter]
      simp only [Bool.and_comm]
    · -- a name that is filtered out is not there to be erased
      rw [if_neg hp, if_neg hp]
      congr 1
      refine List.filter_congr fun other _ => ?_
      by_cases he : other = name
      · rw [he, Bool.eq_false_iff.mpr hp]
        rfl
      · simp [he]
termination_by names => names.length
decreasing_by exact Nat.lt_succ_of_le (List.length_filter_le _ _)

theorem nodup_eraseDups : ∀ names : List String, names.eraseDups.Nodup
  | [] => List.nodup_nil
  | name :: names => by
    rw [List.eraseDups_cons, List.nodup_cons, List.mem_eraseDups, List.mem_filter]
    exact ⟨fun h => by simp at h, nodup_eraseDups _⟩
termination_by names => names.length
decreasing_by exact Nat.lt_succ_of_le (List.length_filter_le _ _)

/-- Names that occur before others come first; of the others those are left that are
new. -/
theorem eraseDups_append_eq_iff (first rest : List String) :
    (first ++ rest).eraseDups = rest.eraseDups ↔ first.eraseDups <+: rest.eraseDups := by
  have hrest : (rest.removeAll first).eraseDups =
      rest.eraseDups.filter fun name => !first.elem name := eraseDups_filter _ rest
  rw [List.eraseDups_append, hrest]
  refine ⟨fun h => ⟨_, h⟩, fun ⟨more, h⟩ => ?_⟩
  have hnodup := nodup_eraseDups rest
  rw [← h] at hnodup ⊢
  have hgone : first.eraseDups.filter (fun name => !first.elem name) = [] := by
    refine List.filter_eq_nil_iff.mpr fun name hname => ?_
    simp [List.mem_eraseDups.mp hname]
  have hkept : more.filter (fun name => !first.elem name) = more := by
    refine List.filter_eq_self.mpr fun name hname => ?_
    have hno : name ∉ first := fun hf =>
      (List.nodup_append.mp hnodup).2.2 name (List.mem_eraseDups.mpr hf) name hname rfl
    simp [hno]
  rw [List.filter_append, hgone, hkept, List.nil_append]

/-! ### Lists name by name -/

variable {vs ws upper : Variables} {name : String}

/-- Two lists are equal if they have their names in one order and the same variables of
each name. -/
theorem eq_of_named (hnames : vs.names = ws.names) (h : ∀ name, vs.named name = ws.named name) :
    vs = ws :=
  congrArg mk (entries_eq vs.entries ws.entries hnames h)
where
  entries_eq : ∀ vs ws : List Variable, names ⟨vs⟩ = names ⟨ws⟩ →
      (∀ name, named ⟨vs⟩ name = named ⟨ws⟩ name) → vs = ws
    | [], [], _, _ => rfl
    | v :: vs, w :: ws, hnames, h => by
      obtain ⟨hvw, hrest⟩ : v.name = w.name ∧ _ := List.cons.inj hnames
      have hfirst := h v.name
      simp only [named, List.filter_cons, hvw, beq_self_eq_true, ↓reduceIte, List.cons.injEq]
        at hfirst
      refine hfirst.1 ▸ congrArg (v :: ·) (entries_eq vs ws hrest fun name => ?_)
      have hname := h name
      rw [named, named, List.filter_cons, List.filter_cons, hvw] at hname
      by_cases hw : (w.name == name) = true
      · rw [if_pos hw, if_pos hw] at hname
        exact (List.cons.inj hname).2
      · rw [if_neg hw, if_neg hw] at hname
        exact hname

/-- The first variable of a name, and the others after it. -/
theorem named_eq_of_first? (hfirst : vs.first? name = ws.first? name)
    (htail : (vs.named name).tail = (ws.named name).tail) : vs.named name = ws.named name := by
  rw [first?, first?] at hfirst
  rcases hv : vs.named name with _ | ⟨v, vs'⟩ <;> rcases hw : ws.named name with _ | ⟨w, ws'⟩ <;>
    simp_all

/-- A layer leaves all variables of a name but the first. -/
theorem tail_named_overriddenBy (vs upper : Variables) (name : String) :
    ((vs.overriddenBy upper).named name).tail = (vs.named name).tail := by
  rw [named_overriddenBy]
  cases upper.last? name <;> rfl

theorem named_overriddenBy_congr (h : upper.last? name = ws.last? name) :
    (vs.overriddenBy upper).named name = (vs.overriddenBy ws).named name := by
  rw [named_overriddenBy, named_overriddenBy, h]

/-- The names that are new, in the order in which they occur first. -/
def brought (vs : Variables) (names : List String) : List String :=
  (names.filter fun name => name ∉ vs.names).eraseDups

theorem brought_eraseDups (vs : Variables) (names : List String) :
    vs.brought names.eraseDups = vs.brought names := by
  rw [brought, brought, eraseDups_filter, eraseDups_filter,
    eraseDups_of_nodup (nodup_eraseDups names)]

/-- A layer brings its new names to the end. -/
theorem names_overriddenBy_append (vs upper : Variables) :
    (vs.overriddenBy upper).names = vs.names ++ vs.brought upper.names :=
  names_addAll upper.entries vs
where
  names_addAll : ∀ (more : List Variable) (vs : Variables),
      (vs.addAll more).names = vs.names ++ vs.brought (more.map (·.name))
    | [], vs => (List.append_nil _).symm
    | v :: more, vs => by
      have ih := names_addAll more (vs.add v)
      have hcons : vs.addAll (v :: more) = (vs.add v).addAll more := rfl
      rw [hcons, ih, brought, brought, names_add, List.map_cons, List.filter_cons]
      by_cases hv : v.name ∈ vs.names
      · simp [hv]
      · simp only [hv, not_false_eq_true, decide_true, ↓reduceIte, List.eraseDups_cons,
          List.filter_filter, List.append_assoc, List.singleton_append, List.mem_append,
          List.mem_singleton]
        congr 4
        funext other
        by_cases ho : other = v.name <;> simp [ho, hv]

/-- Two layers, one over the other, are one layer of all their entries. -/
theorem overriddenBy_overriddenBy (vs lower upper : Variables) :
    (vs.overriddenBy lower).overriddenBy upper =
      vs.overriddenBy ⟨lower.entries ++ upper.entries⟩ :=
  List.foldl_append.symm

theorem length_named_le_one (h : vs.names.Nodup) (name : String) :
    (vs.named name).length ≤ 1 := by
  have hmap : (vs.named name).map (·.name) = vs.names.filter (· == name) := by
    rw [names, List.filter_map]
    rfl
  have hcount := List.nodup_iff_count_le_one.mp h name
  rw [List.count_eq_length_filter, ← hmap, List.length_map] at hcount
  exact hcount

/-- If the lower one of two layers holds no name twice, they may be merged before they
are put on. -/
theorem overriddenBy_merged {lower : Variables} (h : lower.names.Nodup) (vs upper : Variables) :
    vs.overriddenBy (lower.overriddenBy upper) = (vs.overriddenBy lower).overriddenBy upper := by
  rw [overriddenBy_overriddenBy]
  refine eq_of_named ?_ fun name => named_overriddenBy_congr ?_
  · have hmerged := names_overriddenBy (eraseDups_of_nodup h).symm upper
    have hall : names ⟨lower.entries ++ upper.entries⟩ = lower.names ++ upper.names :=
      List.map_append
    rw [names_overriddenBy_append vs, hmerged, brought_eraseDups, names_overriddenBy_append, hall]
  · rw [last?_overriddenBy, if_pos (length_named_le_one h name), last?, last?, last?, named, named,
      named, List.filter_append, List.getLast?_append]

/-! ### A layer that is left out -/

variable (below layer above : Variables) {front : List Variable}

/-- Without a layer, a variable that stands in front of all layers is the same; another
one is the same exactly if the layer has nothing under the name, or is hidden by what is
above it, or repeats what is below. -/
theorem first?_leftOut_iff (name : String) :
    (((below.overriddenBy layer).overriddenBy above).inFront front).first? name =
        ((below.overriddenBy above).inFront front).first? name ↔
      (name ∈ layer.names → name ∉ front.map (·.name) → name ∉ above.names →
        layer.last? name = below.first? name) := by
  by_cases hf : name ∈ front.map (·.name)
  · refine iff_of_true ?_ fun _ hno => absurd hf hno
    obtain ⟨v, hv⟩ := exists_last? hf
    rw [first?, first?, named_inFront, named_inFront, hv]
  · rw [first?_inFront _ hf, first?_inFront _ hf, first?_overriddenBy, first?_overriddenBy,
      first?_overriddenBy]
    by_cases ha : name ∈ above.names
    · refine iff_of_true ?_ fun _ _ hno => absurd ha hno
      obtain ⟨v, hv⟩ := exists_last? ha
      rw [hv]
      rfl
    · rw [last?_eq_none_iff.mpr ha, Option.none_or, Option.none_or]
      by_cases hl : name ∈ layer.names
      · obtain ⟨v, hv⟩ := exists_last? hl
        rw [hv]
        exact ⟨fun h _ _ _ => h, fun h => h hl hf ha⟩
      · rw [last?_eq_none_iff.mpr hl, Option.none_or]
        exact iff_of_true rfl fun h => absurd h hl

/-- Without a layer, the whole list is the same exactly if each variable is, and the
names that the layer brings are the next ones that are brought without it. -/
theorem leftOut_eq_iff (hfront : latest front = front) :
    ((below.overriddenBy layer).overriddenBy above).inFront front =
        (below.overriddenBy above).inFront front ↔
      (∀ name ∈ layer.names, name ∉ front.map (·.name) → name ∉ above.names →
        layer.last? name = below.first? name) ∧
      (below.brought layer.names).filter (fun name => name ∉ front.map (·.name)) <+:
        (below.brought above.names).filter fun name => name ∉ front.map (·.name) := by
  have hfirsts : (∀ name, (((below.overriddenBy layer).overriddenBy above).inFront front).first?
      name = ((below.overriddenBy above).inFront front).first? name) ↔
        ∀ name ∈ layer.names, name ∉ front.map (·.name) → name ∉ above.names →
          layer.last? name = below.first? name :=
    forall_congr' fun name => first?_leftOut_iff below layer above name
  have hnames : (((below.overriddenBy layer).overriddenBy above).inFront front).names =
      ((below.overriddenBy above).inFront front).names ↔
        (below.brought layer.names).filter (fun name => name ∉ front.map (·.name)) <+:
          (below.brought above.names).filter fun name => name ∉ front.map (·.name) := by
    have hall : names ⟨layer.entries ++ above.entries⟩ = layer.names ++ above.names :=
      List.map_append
    rw [overriddenBy_overriddenBy, names_inFront _ hfront, names_inFront _ hfront,
      names_overriddenBy_append, names_overriddenBy_append, hall, List.filter_append,
      List.filter_append, List.append_cancel_left_eq, List.append_cancel_left_eq, brought, brought,
      brought, ← eraseDups_filter, ← eraseDups_filter, ← eraseDups_filter, List.filter_append,
      List.filter_append, eraseDups_append_eq_iff]
  rw [← hfirsts, ← hnames]
  refine ⟨fun h => by rw [h]; exact ⟨fun _ => rfl, rfl⟩, fun ⟨hf, hn⟩ =>
    eq_of_named hn fun name => named_eq_of_first? (hf name) ?_⟩
  -- only the first variable of a name is that of a layer
  rw [named_inFront, named_inFront]
  cases last? ⟨front⟩ name with
  | some v => rfl
  | none => rw [tail_named_overriddenBy, tail_named_overriddenBy, tail_named_overriddenBy]

end Variables
end StageRuns
