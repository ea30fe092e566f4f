/-
# Steps that may fail

What it means that steps that may fail did not: each of them gave a value, and
the values follow one another. A list of steps succeeds if and only if each
step does, and it fails as the first step does that fails.

Key theorems: `Outcome.bind_eq_ok`, `Outcome.map_eq_ok`,
`Outcome.mapM_eq_ok`, `Outcome.mapM_eq_ok_map`, `Outcome.mapM_congr`,
`Outcome.bind_eq_error`, `Outcome.mapM_eq_error`, `Outcome.foldlM_eq_error`.
-/
import Mathlib.Data.List.Forall2

namespace StageRuns
namespace Outcome

variable {ε α β : Type}

/-- Two steps succeed if the first does, and the second does after it. -/
theorem bind_eq_ok {x : Except ε α} {f : α → Except ε β} {b : β} :
    (x >>= f) = .ok b ↔ ∃ a, x = .ok a ∧ f a = .ok b := by
  cases x with
  | error e => exact ⟨nofun, fun ⟨_, h, _⟩ => nomatch h⟩
  | ok a => exact ⟨fun h => ⟨a, rfl, h⟩, fun ⟨_, h, hf⟩ => by cases h; exact hf⟩

theorem exists_of_isOk {x : Except ε α} (h : x.isOk = true) : ∃ a, x = .ok a := by
  cases x with
  | error e => cases h
  | ok a => exact ⟨a, rfl⟩

theorem map_eq_ok {x : Except ε α} {f : α → β} {b : β} :
    x.map f = .ok b ↔ ∃ a, x = .ok a ∧ f a = b := by
  cases x with
  | error e => exact ⟨nofun, fun ⟨_, h, _⟩ => nomatch h⟩
  | ok a => simp [Except.map]

/-- The steps of a list succeed if each of them does. -/
theorem mapM_eq_ok {f : α → Except ε β} : ∀ {xs : List α} {ys : List β},
    xs.mapM f = .ok ys ↔ List.Forall₂ (fun x y => f x = .ok y) xs ys
  | [], ys => by
    rw [List.mapM_nil, List.forall₂_nil_left_iff]
    exact ⟨fun h => by cases h; rfl, fun h => by rw [h]; rfl⟩
  | x :: xs, ys => by
    rw [List.mapM_cons, bind_eq_ok, List.forall₂_cons_left_iff]
    constructor
    · rintro ⟨y, hy, h⟩
      obtain ⟨zs, hzs, h⟩ := bind_eq_ok.mp h
      cases h
      exact ⟨y, zs, hy, mapM_eq_ok.mp hzs, rfl⟩
    · rintro ⟨y, zs, hy, hzs, rfl⟩
      exact ⟨y, hy, bind_eq_ok.mpr ⟨zs, mapM_eq_ok.mpr hzs, rfl⟩⟩

/-- If a step succeeds on a condition and then gives a known value, so do the
steps of a list. -/
theorem mapM_eq_ok_map {f : α → Except ε β} {p : α → Prop} {g : α → β}
    (h : ∀ x y, f x = .ok y ↔ p x ∧ y = g x) : ∀ {xs : List α} {ys : List β},
    xs.mapM f = .ok ys ↔ (∀ x ∈ xs, p x) ∧ ys = xs.map g
  | [], ys => by
    rw [List.mapM_nil]
    exact ⟨fun h => ⟨nofun, by cases h; rfl⟩, fun h => by rw [h.2]; rfl⟩
  | x :: xs, ys => by
    rw [List.mapM_cons, bind_eq_ok, List.forall_mem_cons, List.map_cons]
    constructor
    · rintro ⟨y, hy, hr⟩
      obtain ⟨zs, hzs, hr⟩ := bind_eq_ok.mp hr
      obtain ⟨hx, rfl⟩ := (h x y).mp hy
      obtain ⟨hxs, rfl⟩ := (mapM_eq_ok_map h).mp hzs
      cases hr
      exact ⟨⟨hx, hxs⟩, rfl⟩
    · rintro ⟨⟨hx, hxs⟩, rfl⟩
      exact ⟨g x, (h x _).mpr ⟨hx, rfl⟩,
        bind_eq_ok.mpr ⟨xs.map g, (mapM_eq_ok_map h).mpr ⟨hxs, rfl⟩, rfl⟩⟩

/-- Steps that have the same outcomes one by one have the same outcome together. -/
theorem mapM_congr {f g : α → Except ε β} : ∀ {xs : List α}, (∀ x ∈ xs, f x = g x) →
    xs.mapM f = xs.mapM g
  | [], _ => by rw [List.mapM_nil, List.mapM_nil]
  | x :: xs, h => by
    obtain ⟨hx, hxs⟩ := List.forall_mem_cons.mp h
    rw [List.mapM_cons, List.mapM_cons, hx, mapM_congr hxs]

/-- If each step of a list succeeds, they do so together. -/
theorem exists_mapM_eq_ok {f : α → Except ε β} : ∀ {xs : List α},
    (∀ x ∈ xs, ∃ y, f x = .ok y) → ∃ ys, xs.mapM f = .ok ys
  | [], _ => ⟨[], rfl⟩
  | x :: xs, h => by
    obtain ⟨y, hy⟩ := h x List.mem_cons_self
    obtain ⟨ys, hys⟩ := exists_mapM_eq_ok fun z hz => h z (List.mem_cons_of_mem _ hz)
    exact ⟨y :: ys, mapM_eq_ok.mpr (.cons hy (mapM_eq_ok.mp hys))⟩

/-! ### Failures -/

variable {e : ε}

/-- Two steps fail if the first does, or the second does after it. -/
theorem bind_eq_error {x : Except ε α} {f : α → Except ε β} :
    (x >>= f) = .error e ↔ x = .error e ∨ ∃ a, x = .ok a ∧ f a = .error e := by
  cases x with
  | error e' =>
    refine ⟨fun h => .inl (by cases h; rfl), ?_⟩
    rintro (h | ⟨_, h, _⟩)
    · cases h
      rfl
    · cases h
  | ok a =>
    refine ⟨fun h => .inr ⟨a, rfl, h⟩, ?_⟩
    rintro (h | ⟨_, h, hf⟩)
    · cases h
    · cases h
      exact hf

theorem map_eq_error {x : Except ε α} {f : α → β} : x.map f = .error e ↔ x = .error e := by
  cases x with
  | error e' => exact ⟨fun h => by cases h; rfl, fun h => by cases h; rfl⟩
  | ok a => exact ⟨nofun, nofun⟩

/-- A step that does not fail gives a value. -/
theorem exists_of_ne_error {x : Except ε α} (h : ∀ e, x ≠ .error e) : ∃ a, x = .ok a := by
  cases x with
  | error e => exact absurd rfl (h e)
  | ok a => exact ⟨a, rfl⟩

/-- The steps of a list fail as the first step that fails, after steps that
succeed. -/
theorem mapM_eq_error {f : α → Except ε β} : ∀ {xs : List α},
    xs.mapM f = .error e ↔ ∃ before x after, xs = before ++ x :: after ∧
      (∀ y ∈ before, ∃ b, f y = .ok b) ∧ f x = .error e
  | [] => by
    refine ⟨nofun, ?_⟩
    rintro ⟨before, x, after, h, -⟩
    simp at h
  | x :: xs => by
    rw [List.mapM_cons, bind_eq_error]
    constructor
    · rintro (hx | ⟨b, hb, h⟩)
      · exact ⟨[], x, xs, rfl, nofun, hx⟩
      · obtain hrest | ⟨_, _, hpure⟩ := bind_eq_error.mp h
        · obtain ⟨before, y, after, rfl, hbefore, hy⟩ := mapM_eq_error.mp hrest
          exact ⟨x :: before, y, after, rfl, List.forall_mem_cons.mpr ⟨⟨b, hb⟩, hbefore⟩, hy⟩
        · cases hpure
    · rintro ⟨before, y, after, h, hbefore, hy⟩
      cases before with
      | nil =>
        obtain ⟨rfl, rfl⟩ := List.cons.inj h
        exact .inl hy
      | cons z before =>
        obtain ⟨rfl, rfl⟩ := List.cons.inj h
        obtain ⟨⟨b, hb⟩, hbefore⟩ := List.forall_mem_cons.mp hbefore
        exact .inr ⟨b, hb, bind_eq_error.mpr
          (.inl (mapM_eq_error.mpr ⟨before, y, after, rfl, hbefore, hy⟩))⟩

/-- Steps that pass a value on fail as the first step that fails, at the value that the
steps before it give. -/
theorem foldlM_eq_error {f : β → α → Except ε β} : ∀ {xs : List α} {b : β},
    xs.foldlM f b = .error e ↔ ∃ before x after c, xs = before ++ x :: after ∧
      before.foldlM f b = .ok c ∧ f c x = .error e
  | [], b => by
    refine ⟨nofun, ?_⟩
    rintro ⟨before, x, after, c, h, -⟩
    simp at h
  | x :: xs, b => by
    rw [List.foldlM_cons, bind_eq_error]
    constructor
    · rintro (hx | ⟨c, hc, h⟩)
      · exact ⟨[], x, xs, b, rfl, rfl, hx⟩
      · obtain ⟨before, y, after, d, rfl, hbefore, hy⟩ := foldlM_eq_error.mp h
        have hd : (x :: before).foldlM f b = .ok d := by
          rw [List.foldlM_cons]
          exact bind_eq_ok.mpr ⟨c, hc, hbefore⟩
        exact ⟨x :: before, y, after, d, rfl, hd, hy⟩
    · rintro ⟨before, y, after, d, h, hbefore, hy⟩
      cases before with
      | nil =>
        obtain ⟨rfl, rfl⟩ := List.cons.inj h
        cases hbefore
        exact .inl hy
      | cons z before =>
        obtain ⟨rfl, rfl⟩ := List.cons.inj h
        rw [List.foldlM_cons] at hbefore
        obtain ⟨c, hc, hbefore⟩ := bind_eq_ok.mp hbefore
        exact .inr ⟨c, hc, foldlM_eq_error.mpr ⟨before, y, after, d, rfl, hbefore, hy⟩⟩

end Outcome
end StageRuns
