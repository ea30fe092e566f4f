/-
# The algebra of layers

On lists that hold no name twice, to put a layer on is associative and idempotent, and the
empty list is neutral on both sides; so the lists are the same with their values, their
marks and their order (`Variables.overriddenBy_merged`, `Variables.overriddenBy_self`,
`Variables.empty_overriddenBy`). A name has the value of the layer if that holds the name,
and else that of the list (`Variables.get?_overriddenBy`).

To put the same variables in front twice is to do it once, also where names repeat
(`Variables.inFront_inFront`). No change of a list makes a name occur twice
(`Variables.nodup_names_changed`), so no sequence of changes does
(`Variables.nodup_names_changedBy`).

Key definitions: `Variables.Change`, `Variables.changed`, `Variables.changedBy`.
Key theorems: `Variables.overriddenBy_self`, `Variables.empty_overriddenBy`,
`Variables.get?_overriddenBy`, `Variables.inFront_inFront`,
`Variables.nodup_names_changedBy`, `Variables.layers_algebra`.
-/
import StageRuns.Proofs.Layers

namespace StageRuns
namespace Variables

variable {vs upper : Variables}

/-! ### Layers that hold no name twice -/

/-- A list that holds no name twice has one variable of a name, or none. -/
theorem named_eq_toList (h : vs.names.Nodup) (name : String) :
    vs.named name = (vs.last? name).toList := by
  have hlength := length_named_le_one h name
  rw [last?]
  rcases hvs : vs.named name with _ | ⟨v, _ | ⟨w, ws⟩⟩
  · rfl
  · rfl
  · rw [hvs, List.length_cons, List.length_cons] at hlength
    omega

theorem overriddenBy_self (h : vs.names.Nodup) : vs.overriddenBy vs = vs := by
  refine eq_of_named ?_ fun name => ?_
  · have hold : vs.names.filter (fun name => name ∉ vs.names) = [] :=
      List.filter_eq_nil_iff.mpr fun name hname hno => of_decide_eq_true hno hname
    rw [names_overriddenBy_append, brought, hold]
    exact List.append_nil vs.names
  · rw [named_overriddenBy, named_eq_toList h]
    cases vs.last? name <;> rfl

theorem empty_overriddenBy (h : vs.names.Nodup) : empty.overriddenBy vs = vs := by
  refine eq_of_named ?_ fun name => ?_
  · have hnone : empty.names = ([] : List String).eraseDups := rfl
    rw [names_overriddenBy hnone, List.nil_append, eraseDups_of_nodup h]
  · rw [named_overriddenBy, named_eq_toList h]
    cases vs.last? name <;> rfl

theorem overriddenBy_empty (vs : Variables) : vs.overriddenBy empty = vs := rfl

/-- The layer hides what the list has under its names, and nothing else. -/
theorem get?_overriddenBy (h : upper.names.Nodup) (vs : Variables) (name : String) :
    (vs.overriddenBy upper).get? name =
      if name ∈ upper.names then upper.get? name else vs.get? name := by
  have hfirst := first?_eq_last? (length_named_le_one h name)
  rw [get?_eq_first?, get?_eq_first?, get?_eq_first?, first?_overriddenBy, hfirst]
  by_cases hname : name ∈ upper.names
  · obtain ⟨v, hv⟩ := exists_last? hname
    rw [if_pos hname, hv]
    rfl
  · rw [if_neg hname, last?_eq_none_iff.mpr hname, Option.none_or]

/-! ### Variables in front -/

/-- To put variables in front once more changes nothing. -/
theorem inFront_inFront (vs : Variables) (front : List Variable) :
    (vs.inFront front).inFront front = vs.inFront front := by
  refine congrArg mk (?_ : ((vs.inFront front).inFront front).entries = (vs.inFront front).entries)
  have hgone : (lastOfEach front).filter (fun v => v.name ∉ front.map (·.name)) = [] := by
    refine List.filter_eq_nil_iff.mpr fun v hv hno => of_decide_eq_true hno ?_
    rw [← List.mem_dedup, ← map_name_lastOfEach]
    exact List.mem_map_of_mem hv
  rw [entries_inFront (vs.inFront front), entries_inFront vs, List.filter_append, hgone,
    List.nil_append, List.filter_filter]
  simp only [Bool.and_self]

theorem nodup_names_inFront (h : vs.names.Nodup) (front : List Variable) :
    (vs.inFront front).names.Nodup := by
  rw [names_inFront_dedup, List.nodup_append]
  refine ⟨List.nodup_dedup _, h.filter _, fun name hfront other hother heq => ?_⟩
  obtain ⟨-, hno⟩ := List.mem_filter.mp hother
  exact of_decide_eq_true hno (heq ▸ List.mem_dedup.mp hfront)

/-! ### Changes one after the other -/

/-- What can be done to a list of variables. -/
inductive Change where
  | add (v : Variable)
  | set (name value : String)
  | overriddenBy (upper : Variables)
  | inFront (front : List Variable)
deriving Repr, DecidableEq

/-- The list after a change. -/
def changed (vs : Variables) : Change → Variables
  | .add v => vs.add v
  | .set name value => vs.set name value
  | .overriddenBy upper => vs.overriddenBy upper
  | .inFront front => vs.inFront front

/-- The list after changes one after the other. -/
def changedBy (vs : Variables) (changes : List Change) : Variables := changes.foldl changed vs

theorem nodup_names_changed (h : vs.names.Nodup) (change : Change) :
    (vs.changed change).names.Nodup := by
  cases change with
  | add v => exact nodup_names_add h v
  | set name value => exact nodup_names_add h ⟨name, value, false⟩
  | overriddenBy upper => exact nodup_names_overriddenBy h upper
  | inFront front => exact nodup_names_inFront h front

theorem nodup_names_changedBy : ∀ (changes : List Change) {vs : Variables}, vs.names.Nodup →
    (vs.changedBy changes).names.Nodup
  | [], _, h => h
  | change :: changes, _, h => nodup_names_changedBy changes (nodup_names_changed h change)

/-- Layers that hold no name twice may be put together in any grouping; a layer that is
there already, or is empty, changes nothing; and a layer hides what is below under its
names only. Of variables in front the last of each name stands first, before the others in
their order, and to put them there once more changes nothing. No change makes a name occur
twice. -/
theorem layers_algebra :
    (∀ a b c : Variables, a.names.Nodup → b.names.Nodup → c.names.Nodup →
      (a.overriddenBy b).overriddenBy c = a.overriddenBy (b.overriddenBy c) ∧
      a.overriddenBy a = a ∧
      empty.overriddenBy a = a ∧
      a.overriddenBy empty = a ∧
      ∀ name, (a.overriddenBy b).get? name =
        if name ∈ b.names then b.get? name else a.get? name) ∧
    (∀ (vs : Variables) (front : List Variable),
      (vs.inFront front).entries =
        lastOfEach front ++ (vs.entries.filter fun v => v.name ∉ front.map (·.name)) ∧
      (vs.inFront front).inFront front = vs.inFront front) ∧
    ∀ (vs : Variables) (changes : List Change), vs.names.Nodup →
      (vs.changedBy changes).names.Nodup := by
  refine ⟨fun a b c ha hb _ => ⟨?_, ?_, ?_, ?_, ?_⟩, fun vs front => ⟨?_, ?_⟩,
    fun vs changes h => ?_⟩
  · exact (overriddenBy_merged hb a c).symm
  · exact overriddenBy_self ha
  · exact empty_overriddenBy ha
  · exact overriddenBy_empty a
  · exact get?_overriddenBy hb a
  · exact entries_inFront vs front
  · exact inFront_inFront vs front
  · exact nodup_names_changedBy changes h

/-- Variables of which one is secure. -/
def lowest : Variables := ⟨[⟨"X", "1", false⟩, ⟨"KEY", "s3cret", true⟩]⟩

/-- A layer that makes the secure one open. -/
def middle : Variables := ⟨[⟨"KEY", "open", false⟩, ⟨"Y", "2", false⟩]⟩

/-- A layer that brings its names in another order. -/
def highest : Variables := ⟨[⟨"Y", "3", true⟩, ⟨"X", "4", false⟩]⟩

/-- Variables of which the first and the last have the same name. -/
def repeated : List Variable := [⟨"Y", "5", false⟩, ⟨"Z", "6", false⟩, ⟨"Y", "7", true⟩]

/-- Three layers come together in both groupings, and a name that is repeated in front stands
where it is last. -/
theorem layers_algebra_ofThree :
    (lowest.overriddenBy middle).overriddenBy highest =
      lowest.overriddenBy (middle.overriddenBy highest) ∧
    ((lowest.overriddenBy middle).overriddenBy highest).entries =
      [⟨"X", "4", false⟩, ⟨"KEY", "open", false⟩, ⟨"Y", "3", true⟩] ∧
    (lowest.overriddenBy middle).get? "KEY" = some "open" ∧
    (lowest.overriddenBy middle).get? "X" = some "1" ∧
    (middle.inFront repeated).entries =
      [⟨"Z", "6", false⟩, ⟨"Y", "7", true⟩, ⟨"KEY", "open", false⟩] ∧
    (lowest.changedBy [.inFront repeated, .set "X" "8", .overriddenBy middle]).names.Nodup := by
  obtain ⟨hlayers, hfront, hchanges⟩ := layers_algebra
  obtain ⟨hgroup, -, -, -, hget⟩ :=
    hlayers lowest middle highest (by decide) (by decide) (by decide)
  exact ⟨hgroup, by decide, (hget "KEY").trans (by decide), (hget "X").trans (by decide),
    (hfront middle repeated).1.trans (by decide), hchanges lowest _ (by decide)⟩

end Variables
end StageRuns
