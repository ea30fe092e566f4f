/-
# Variables in layers

To add a variable is to put it in the place of the first one of its name, or at
the end; all other variables stay as they are (`Variables.named_add`). So when a
layer is put on a list, the last variable that the layer has of a name is the
first of that name in the result (`Variables.first?_overriddenBy`), and the names
of the result stand in the order in which they occur first, in the list and then
in the layer (`Variables.names_overriddenBy`).

A list that was read from outside may hold a name twice. Of the variables of such
a name only the first one is replaced, so that the last one of the result is that
of the layer if the list held the name once at most, and else that of the list
(`Variables.last?_overriddenBy`).

Of variables that are put in front the last of each name is kept, and stands where
it stood among the last ones; behind them are the variables of other names
(`Variables.entries_inFront`).

Key definitions: `Variables.named`, `Variables.first?`, `Variables.last?`,
`Variables.lastOfEach`.
Key theorems: `Variables.named_add`, `Variables.named_overriddenBy`,
`Variables.first?_overriddenBy`, `Variables.last?_overriddenBy`,
`Variables.names_overriddenBy`, `Variables.nodup_names_overriddenBy`,
`Variables.entries_inFront`, `Variables.first?_inFront`, `Variables.names_inFront`.
-/
import StageRuns.Variables
import Mathlib.Data.List.Dedup

namespace StageRuns
namespace Variables

/-- The variables of a name, in their order. -/
def named (vs : Variables) (name : String) : List Variable :=
  vs.entries.filter fun v => v.name == name

/-- The first variable of a name, which is the one that counts. -/
def first? (vs : Variables) (name : String) : Option Variable := (vs.named name).head?

/-- The last variable of a name. -/
def last? (vs : Variables) (name : String) : Option Variable := (vs.named name).getLast?

variable {vs upper : Variables} {v : Variable} {name : String}

/-- What is got under a name is the value of the first variable that has it. -/
theorem get?_eq_first? (vs : Variables) (name : String) :
    vs.get? name = (vs.first? name).map (·.value) := by
  rw [first?, named, List.head?_filter]
  rfl

/-! ### Variables of one name -/

theorem filter_put (v : Variable) (name : String) : ∀ ws : List Variable,
    (put v ws).filter (fun w => w.name == name) =
      if v.name = name then v :: (ws.filter fun w => w.name == name).tail
      else ws.filter fun w => w.name == name
  | [] => by by_cases h : v.name = name <;> simp [put, h]
  | w :: ws => by
    have ih := filter_put v name ws
    unfold put
    by_cases hw : w.name = v.name
    · rw [if_pos hw]
      by_cases h : v.name = name
      · simp [h, hw.trans h]
      · have hwn : w.name ≠ name := fun e => h (hw.symm.trans e)
        simp [h, hwn]
    · rw [if_neg hw, List.filter_cons, ih]
      by_cases h : v.name = name
      · have hwn : w.name ≠ name := fun e => hw (e.trans h.symm)
        simp [h, hwn]
      · simp [h, List.filter_cons]

/-- A new variable takes the place of the first one of its name. -/
theorem named_add (vs : Variables) (v : Variable) (name : String) :
    (vs.add v).named name = if v.name = name then v :: (vs.named name).tail else vs.named name :=
  filter_put v name vs.entries

theorem last?_cons (v : Variable) (vs : List Variable) (name : String) :
    last? ⟨v :: vs⟩ name =
      if v.name = name then some ((last? ⟨vs⟩ name).getD v) else last? ⟨vs⟩ name := by
  by_cases h : v.name = name
  · have hv : named ⟨v :: vs⟩ name = v :: named ⟨vs⟩ name := by simp [named, h]
    rw [last?, hv, List.getLast?_cons, if_pos h]
    rfl
  · have hv : named ⟨v :: vs⟩ name = named ⟨vs⟩ name := by simp [named, h]
    rw [last?, hv, if_neg h]
    rfl

theorem named_addAll (name : String) : ∀ (more : List Variable) (vs : Variables),
    (vs.addAll more).named name =
      match last? ⟨more⟩ name with
      | some v => v :: (vs.named name).tail
      | none => vs.named name
  | [], vs => rfl
  | v :: more, vs => by
    have ih := named_addAll name more (vs.add v)
    have hcons : vs.addAll (v :: more) = (vs.add v).addAll more := rfl
    rw [hcons, ih, named_add, last?_cons]
    by_cases h : v.name = name
    · rw [if_pos h, if_pos h]
      cases last? ⟨more⟩ name <;> rfl
    · rw [if_neg h, if_neg h]

/-- The last variable of a name in the layer takes the place of the first one of
the list. -/
theorem named_overriddenBy (vs upper : Variables) (name : String) :
    (vs.overriddenBy upper).named name =
      match upper.last? name with
      | some v => v :: (vs.named name).tail
      | none => vs.named name :=
  named_addAll name upper.entries vs

/-- The first variable of a name is the last one of the layer, if that has one. -/
theorem first?_overriddenBy (vs upper : Variables) (name : String) :
    (vs.overriddenBy upper).first? name = (upper.last? name).or (vs.first? name) := by
  rw [first?, named_overriddenBy]
  cases upper.last? name <;> rfl

/-- The last variable of a name is that of the layer only if the list holds the
name once at most. -/
theorem last?_overriddenBy (vs upper : Variables) (name : String) :
    (vs.overriddenBy upper).last? name =
      if (vs.named name).length ≤ 1 then (upper.last? name).or (vs.last? name)
      else vs.last? name := by
  rw [last?, named_overriddenBy, last?.eq_1 vs]
  cases upper.last? name with
  | none => simp
  | some v =>
    rcases vs.named name with _ | ⟨w, _ | ⟨x, ws⟩⟩
    · rfl
    · rfl
    · simp [List.getLast?_cons]

/-- A name that is not there twice has a last variable that is the first one. -/
theorem first?_eq_last? (h : (vs.named name).length ≤ 1) : vs.first? name = vs.last? name := by
  rw [first?, last?]
  rcases hvs : vs.named name with _ | ⟨v, _ | ⟨w, ws⟩⟩
  · rfl
  · rfl
  · rw [hvs, List.length_cons, List.length_cons] at h
    omega

theorem last?_eq_none_iff : vs.last? name = none ↔ name ∉ vs.names := by
  rw [last?, List.getLast?_eq_none_iff, named, List.filter_eq_nil_iff, names]
  simp

theorem exists_last? (h : name ∈ vs.names) : ∃ v, vs.last? name = some v :=
  Option.ne_none_iff_exists'.mp (mt last?_eq_none_iff.mp (not_not_intro h))

/-- A name that the list or the layer holds is held by the result. -/
theorem exists_last?_overriddenBy (h : name ∈ vs.names ∨ name ∈ upper.names) :
    ∃ v, (vs.overriddenBy upper).last? name = some v := by
  refine Option.ne_none_iff_exists'.mp fun hnone => ?_
  rw [last?, named_overriddenBy] at hnone
  cases hu : upper.last? name with
  | some v =>
    rw [hu, List.getLast?_cons] at hnone
    cases hnone
  | none =>
    rw [hu] at hnone
    rcases h with h | h
    · exact last?_eq_none_iff.mp hnone h
    · exact last?_eq_none_iff.mp hu h

/-! ### Names -/

theorem map_name_put (v : Variable) : ∀ ws : List Variable,
    (put v ws).map (·.name) =
      if v.name ∈ ws.map (·.name) then ws.map (·.name) else ws.map (·.name) ++ [v.name]
  | [] => rfl
  | w :: ws => by
    have ih := map_name_put v ws
    unfold put
    by_cases hw : w.name = v.name
    · simp [hw]
    · have hv : v.name ≠ w.name := fun e => hw e.symm
      rw [if_neg hw, List.map_cons, ih]
      by_cases hm : v.name ∈ ws.map (·.name)
      · rw [if_pos hm, List.map_cons, if_pos (List.mem_cons_of_mem _ hm)]
      · have hno : v.name ∉ (w :: ws).map (·.name) := by
          rw [List.map_cons, List.mem_cons, not_or]
          exact ⟨hv, hm⟩
        rw [if_neg hm, if_neg hno]
        rfl

/-- A new name goes to the end. -/
theorem names_add (vs : Variables) (v : Variable) : (vs.add v).names =
    if v.name ∈ vs.names then vs.names else vs.names ++ [v.name] :=
  map_name_put v vs.entries

theorem nodup_names_add (h : vs.names.Nodup) (v : Variable) : (vs.add v).names.Nodup := by
  rw [names_add]
  by_cases hv : v.name ∈ vs.names
  · rw [if_pos hv]
    exact h
  · rw [if_neg hv]
    exact List.nodup_append.mpr ⟨h, List.nodup_singleton _, fun a ha b hb e =>
      hv (List.mem_singleton.mp hb ▸ e ▸ ha)⟩

theorem names_add_of_eq {names : List String} (h : vs.names = names.eraseDups) (v : Variable) :
    (vs.add v).names = (names ++ [v.name]).eraseDups := by
  have hmem : v.name ∈ vs.names ↔ v.name ∈ names := by rw [h, List.mem_eraseDups]
  rw [names_add, List.eraseDups_append, ← h, List.cons_removeAll]
  by_cases hv : v.name ∈ names
  · rw [if_pos (hmem.mpr hv)]
    simp [hv]
  · rw [if_neg fun hm => hv (hmem.mp hm)]
    simp [hv, List.eraseDups_cons]

theorem nodup_names_addAll : ∀ (more : List Variable) {vs : Variables}, vs.names.Nodup →
    (vs.addAll more).names.Nodup
  | [], _, h => h
  | v :: more, _, h => nodup_names_addAll more (nodup_names_add h v)

theorem names_addAll_of_eq : ∀ (more : List Variable) {vs : Variables} {names : List String},
    vs.names = names.eraseDups →
      (vs.addAll more).names = (names ++ more.map (·.name)).eraseDups
  | [], _, names, h => by rw [List.map_nil, List.append_nil]; exact h
  | v :: more, vs, names, h => by
    have hnext := names_addAll_of_eq more (names_add_of_eq h v)
    rw [List.append_assoc] at hnext
    exact hnext

/-- A layer makes no name occur twice. -/
theorem nodup_names_overriddenBy (h : vs.names.Nodup) (upper : Variables) :
    (vs.overriddenBy upper).names.Nodup :=
  nodup_names_addAll upper.entries h

/-- The names stand in the order in which they occur first, in the list and then in
the layer. -/
theorem names_overriddenBy {names : List String} (h : vs.names = names.eraseDups)
    (upper : Variables) : (vs.overriddenBy upper).names = (names ++ upper.names).eraseDups :=
  names_addAll_of_eq upper.entries h

theorem eraseDups_of_nodup : ∀ {names : List String}, names.Nodup → names.eraseDups = names
  | [], _ => rfl
  | name :: names, h => by
    obtain ⟨hname, hnames⟩ := List.nodup_cons.mp h
    have hself : names.filter (fun other => !other == name) = names := by
      refine List.filter_eq_self.mpr fun other ho => ?_
      have hne : other ≠ name := fun e => hname (e ▸ ho)
      simp [hne]
    rw [List.eraseDups_cons, hself, eraseDups_of_nodup hnames]

/-! ### Variables in front -/

/-- The variables that no later one of the same name follows. -/
def lastOfEach : List Variable → List Variable
  | [] => []
  | v :: vs => if v.name ∈ vs.map (·.name) then lastOfEach vs else v :: lastOfEach vs

theorem map_name_lastOfEach : ∀ vs : List Variable,
    (lastOfEach vs).map (·.name) = (vs.map (·.name)).dedup
  | [] => rfl
  | v :: vs => by
    have ih := map_name_lastOfEach vs
    rw [lastOfEach]
    by_cases h : v.name ∈ vs.map (·.name)
    · rw [if_pos h, ih, List.map_cons, List.dedup_cons_of_mem h]
    · rw [if_neg h, List.map_cons, ih, List.map_cons, List.dedup_cons_of_notMem h]

theorem filter_lastOfEach (name : String) : ∀ vs : List Variable,
    (lastOfEach vs).filter (fun v => v.name == name) = (last? ⟨vs⟩ name).toList
  | [] => rfl
  | v :: vs => by
    have ih := filter_lastOfEach name vs
    rw [last?_cons, lastOfEach]
    by_cases hv : v.name = name
    · rw [if_pos hv]
      by_cases h : v.name ∈ vs.map (·.name)
      · -- a later variable of the name is the one that is left
        have hmem : name ∈ names ⟨vs⟩ := hv ▸ h
        obtain ⟨w, hw⟩ := exists_last? hmem
        rw [if_pos h, ih, hw]
        rfl
      · have hnone : last? ⟨vs⟩ name = none := last?_eq_none_iff.mpr (hv ▸ h)
        rw [if_neg h, List.filter_cons, if_pos (beq_iff_eq.mpr hv), ih, hnone]
        rfl
    · rw [if_neg hv, ← ih]
      split
      · rfl
      · rw [List.filter_cons, if_neg (mt beq_iff_eq.mp hv)]

/-- Of what was kept, that stays whose name does not come later, and of what comes, the
last of each name is kept. -/
theorem foldl_latest : ∀ front kept : List Variable,
    front.foldl (fun kept v => kept.filter (fun w => w.name != v.name) ++ [v]) kept =
      kept.filter (fun w => w.name ∉ front.map (·.name)) ++ lastOfEach front
  | [], kept => by simp [lastOfEach]
  | v :: front, kept => by
    rw [List.foldl_cons, foldl_latest front, List.filter_append, List.filter_filter,
      List.append_assoc]
    congr 1
    · refine List.filter_congr fun w _ => ?_
      rw [Bool.eq_iff_iff, Bool.and_eq_true, bne_iff_ne, decide_eq_true_eq, decide_eq_true_eq,
        List.map_cons, List.mem_cons, not_or, and_comm]
    · rw [lastOfEach, List.filter_singleton]
      by_cases h : v.name ∈ front.map (·.name)
      · rw [if_pos h, decide_eq_false (not_not_intro h)]
        rfl
      · rw [if_neg h, decide_eq_true h]
        rfl

theorem latest_eq (front : List Variable) : latest front = lastOfEach front :=
  foldl_latest front []

/-- In front is the last variable of each name, in the order of those; behind are the
variables of other names. -/
theorem entries_inFront (vs : Variables) (front : List Variable) :
    (vs.inFront front).entries =
      lastOfEach front ++ vs.entries.filter fun v => v.name ∉ front.map (·.name) := by
  rw [inFront, latest_eq]
  show lastOfEach front ++ vs.entries.filter
    (fun v => !(lastOfEach front).any fun w => w.name == v.name) = _
  congr 1
  refine List.filter_congr fun v _ => ?_
  have hname : v.name ∈ (lastOfEach front).map (·.name) ↔ v.name ∈ front.map (·.name) := by
    rw [map_name_lastOfEach, List.mem_dedup]
  rw [Bool.eq_iff_iff, decide_eq_true_eq, ← hname]
  simp

/-- The last variable of a name in front replaces all others of the name. -/
theorem named_inFront (vs : Variables) (front : List Variable) (name : String) :
    (vs.inFront front).named name =
      match last? ⟨front⟩ name with
      | some v => [v]
      | none => vs.named name := by
  rw [named, entries_inFront, List.filter_append, filter_lastOfEach, List.filter_filter]
  cases hlast : last? ⟨front⟩ name with
  | none =>
    have hname : name ∉ front.map (·.name) := last?_eq_none_iff.mp hlast
    refine List.filter_congr fun w _ => ?_
    by_cases hw : w.name = name
    · simp [hw, hname]
    · simp [hw]
  | some v =>
    have hname : name ∈ names ⟨front⟩ := by
      by_contra hno
      rw [last?_eq_none_iff.mpr hno] at hlast
      cases hlast
    have hrest : vs.entries.filter
        (fun w => w.name == name && decide (w.name ∉ front.map (·.name))) = [] := by
      refine List.filter_eq_nil_iff.mpr fun w _ hw => ?_
      rw [Bool.and_eq_true, beq_iff_eq, decide_eq_true_eq] at hw
      exact hw.2 (hw.1 ▸ hname)
    rw [hrest]
    rfl

/-- Other names are not affected by variables in front. -/
theorem first?_inFront (vs : Variables) {front : List Variable} {name : String}
    (h : name ∉ front.map (·.name)) : (vs.inFront front).first? name = vs.first? name := by
  rw [first?, named_inFront, last?_eq_none_iff.mpr h]
  rfl

/-- The names in front come first, each where it stands last. -/
theorem names_inFront_dedup (vs : Variables) (front : List Variable) :
    (vs.inFront front).names =
      (front.map (·.name)).dedup ++ vs.names.filter fun name => name ∉ front.map (·.name) := by
  rw [names, entries_inFront, List.map_append, map_name_lastOfEach, names, List.filter_map]
  rfl

/-- Names in front that differ come first in their order. -/
theorem names_inFront (vs : Variables) {front : List Variable} (h : latest front = front) :
    (vs.inFront front).names =
      front.map (·.name) ++ vs.names.filter fun name => name ∉ front.map (·.name) := by
  rw [names_inFront_dedup, ← map_name_lastOfEach, ← latest_eq, h]

end Variables
end StageRuns
