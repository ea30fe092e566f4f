/-
# Lists side by side

Values that stand side by side with those they came from, lists in which only
one member contributes to what is collected, the lengths of what is collected,
what comes before the first member without a property, and the greatest of a
list of numbers.

Key theorems: `Lists.exists_right`, `Lists.exists_left`,
`Lists.pairwise_of_forall₂`, `Lists.forall₂_filter`, `Lists.map_eq_of_forall₂`,
`Lists.flatMap_eq_of_mem`, `Lists.length_flatMap_lt`, `Lists.eq_of_flatMap_eq`,
`Lists.exists_first`, `Lists.filter_eq_singleton`, `Lists.find?_eq_some_iff`,
`Lists.takeWhile_append_cons`, `Lists.dropWhile_append_cons`, `Lists.append_cons_inj`,
`Lists.le_foldl_max`.
-/
import Mathlib.Algebra.Order.BigOperators.Group.List
import Mathlib.Algebra.Order.Group.Nat
import Mathlib.Data.List.Forall2

namespace StageRuns
namespace Lists

variable {α β : Type} {R : α → β → Prop} {xs : List α} {ys : List β}

theorem exists_right (h : List.Forall₂ R xs ys) {x : α} (hx : x ∈ xs) : ∃ y ∈ ys, R x y := by
  induction h with
  | nil => cases hx
  | cons hr _ ih =>
    rcases List.mem_cons.mp hx with rfl | hx
    · exact ⟨_, List.mem_cons_self, hr⟩
    · obtain ⟨y, hy, hr⟩ := ih hx
      exact ⟨y, List.mem_cons_of_mem _ hy, hr⟩

theorem exists_left (h : List.Forall₂ R xs ys) {y : β} (hy : y ∈ ys) : ∃ x ∈ xs, R x y := by
  obtain ⟨x, hx, hr⟩ := exists_right h.flip hy
  exact ⟨x, hx, hr⟩

theorem forall₂_mem (h : List.Forall₂ R xs ys) :
    List.Forall₂ (fun x y => x ∈ xs ∧ y ∈ ys ∧ R x y) xs ys := by
  rw [List.forall₂_iff_zip] at h ⊢
  refine ⟨h.1, fun hxy => ?_⟩
  obtain ⟨hx, hy⟩ := List.of_mem_zip hxy
  exact ⟨hx, hy, h.2 hxy⟩

/-- What holds between any two of the values that went in holds, in its own
terms, between those that came out. -/
theorem pairwise_of_forall₂ {P : α → α → Prop} {Q : β → β → Prop} (h : List.Forall₂ R xs ys)
    (hPQ : ∀ a b c d, R a c → R b d → P a b → Q c d) (hp : xs.Pairwise P) : ys.Pairwise Q := by
  induction h with
  | nil => exact .nil
  | cons hr hrs ih =>
    obtain ⟨hfirst, hrest⟩ := List.pairwise_cons.mp hp
    refine List.pairwise_cons.mpr ⟨fun z hz => ?_, ih hrest⟩
    obtain ⟨w, hw, hwz⟩ := exists_left hrs hz
    exact hPQ _ _ _ _ hr hwz (hfirst w hw)

theorem forall₂_trans {S : α → α → Prop} (hS : ∀ a b c, S a b → S b c → S a c) :
    ∀ {xs ys zs : List α}, List.Forall₂ S xs ys → List.Forall₂ S ys zs → List.Forall₂ S xs zs
  | _, _, _, .nil, .nil => .nil
  | _, _, _, .cons hxy hxys, .cons hyz hyzs =>
    .cons (hS _ _ _ hxy hyz) (forall₂_trans hS hxys hyzs)

theorem forall₂_filter {p : α → Bool} {q : β → Bool} (h : List.Forall₂ R xs ys)
    (hpq : ∀ x y, R x y → p x = q y) : List.Forall₂ R (xs.filter p) (ys.filter q) := by
  induction h with
  | nil => exact .nil
  | @cons x y xs ys hr _ ih =>
    rw [List.filter_cons, List.filter_cons, hpq x y hr]
    by_cases hq : q y = true
    · rw [if_pos hq, if_pos hq]
      exact .cons hr ih
    · rw [if_neg hq, if_neg hq]
      exact ih

theorem forall₂_append_left : ∀ {xs zs : List α} {ys : List β}, List.Forall₂ R (xs ++ zs) ys →
    ∃ us vs, ys = us ++ vs ∧ List.Forall₂ R xs us ∧ List.Forall₂ R zs vs
  | [], _, ys, h => ⟨[], ys, rfl, .nil, h⟩
  | x :: xs, zs, ys, h => by
    rw [List.cons_append, List.forall₂_cons_left_iff] at h
    obtain ⟨y, ws, hy, hws, rfl⟩ := h
    obtain ⟨us, vs, rfl, hus, hvs⟩ := forall₂_append_left hws
    exact ⟨y :: us, vs, rfl, .cons hy hus, hvs⟩

theorem forall₂_flatMap {γ : Type} {f : γ → List α} {g : γ → List β} :
    ∀ {zs : List γ}, (∀ z ∈ zs, List.Forall₂ R (f z) (g z)) →
      List.Forall₂ R (zs.flatMap f) (zs.flatMap g)
  | [], _ => .nil
  | z :: zs, h => by
    rw [List.flatMap_cons, List.flatMap_cons]
    exact List.rel_append (h z List.mem_cons_self)
      (forall₂_flatMap fun w hw => h w (List.mem_cons_of_mem _ hw))

theorem map_eq_of_forall₂ {γ : Type} {f : α → γ} {g : β → γ} (h : List.Forall₂ R xs ys)
    (hfg : ∀ x ∈ xs, ∀ y ∈ ys, R x y → f x = g y) : xs.map f = ys.map g := by
  induction h with
  | nil => rfl
  | cons hr _ ih =>
    rw [List.map_cons, List.map_cons, hfg _ List.mem_cons_self _ List.mem_cons_self hr, ih]
    exact fun x hx y hy => hfg x (List.mem_cons_of_mem _ hx) y (List.mem_cons_of_mem _ hy)

/-- What only one member of a list contributes to is its contribution. -/
theorem flatMap_eq_of_mem {D : α → α → Prop} (hsymm : ∀ a b, D a b → D b a) {f : α → List β}
    {x : α} : ∀ {xs : List α}, xs.Pairwise D → x ∈ xs → (∀ y ∈ xs, D x y → f y = []) →
      xs.flatMap f = f x
  | y :: xs, hd, hx, h => by
    obtain ⟨hy, hxs⟩ := List.pairwise_cons.mp hd
    rw [List.flatMap_cons]
    rcases List.mem_cons.mp hx with rfl | hx
    · have hnil : xs.flatMap f = [] :=
        List.flatMap_eq_nil_iff.mpr fun z hz => h z (List.mem_cons_of_mem _ hz) (hy z hz)
      rw [hnil, List.append_nil]
    · have hnil : f y = [] := h y List.mem_cons_self (hsymm y x (hy x hx))
      rw [hnil, List.nil_append,
        flatMap_eq_of_mem hsymm hxs hx fun z hz => h z (List.mem_cons_of_mem _ hz)]

/-- If no piece is longer and one is shorter, so is the whole. -/
theorem length_flatMap_lt {γ : Type} {f g : γ → List β} {zs : List γ}
    (hle : ∀ z ∈ zs, (f z).length ≤ (g z).length)
    (hlt : ∃ z ∈ zs, (f z).length < (g z).length) :
    (zs.flatMap f).length < (zs.flatMap g).length := by
  rw [List.length_flatMap, List.length_flatMap]
  exact List.sum_lt_sum _ _ hle hlt

/-- Where the pieces are equally long, the whole determines each of them. -/
theorem eq_of_flatMap_eq {γ : Type} {f g : γ → List β} {zs : List γ}
    (hlength : ∀ z ∈ zs, (f z).length = (g z).length) (h : zs.flatMap f = zs.flatMap g) :
    ∀ z ∈ zs, f z = g z := by
  induction zs with
  | nil => simp
  | cons z zs ih =>
    obtain ⟨hz, hzs⟩ := List.forall_mem_cons.mp hlength
    rw [List.flatMap_cons, List.flatMap_cons] at h
    obtain ⟨hfirst, hrest⟩ := List.append_inj h hz
    exact List.forall_mem_cons.mpr ⟨hfirst, ih hzs hrest⟩

/-- If a member has a property, there is a first one that has it. -/
theorem exists_first {P : α → Prop} {x : α} : ∀ {xs : List α}, x ∈ xs → P x →
    ∃ before y after, xs = before ++ y :: after ∧ (∀ z ∈ before, ¬ P z) ∧ P y
  | z :: xs, hx, h => by
    by_cases hz : P z
    · exact ⟨[], z, xs, rfl, fun _ hw => absurd hw List.not_mem_nil, hz⟩
    · have hx : x ∈ xs := (List.mem_cons.mp hx).resolve_left fun he => hz (he ▸ h)
      obtain ⟨before, y, after, rfl, hbefore, hy⟩ := exists_first hx h
      exact ⟨z :: before, y, after, rfl, List.forall_mem_cons.mpr ⟨hz, hbefore⟩, hy⟩

/-- If no two members have a property, one that has it is the only one. -/
theorem filter_eq_singleton {p : α → Bool} {x : α} (hx : x ∈ xs) (hp : p x = true)
    (h : xs.Pairwise fun a b => p a = true → p b = false) : xs.filter p = [x] := by
  obtain ⟨before, after, rfl⟩ := List.append_of_mem hx
  obtain ⟨-, hafter, hbefore⟩ := List.pairwise_append.mp h
  have hnone : before.filter p = [] := List.filter_eq_nil_iff.mpr fun a ha hpa => by
    have := hbefore a ha x List.mem_cons_self hpa
    rw [hp] at this
    cases this
  have hnil : after.filter p = [] := List.filter_eq_nil_iff.mpr fun b hb => by
    rw [(List.pairwise_cons.mp hafter).1 b hb hp]
    exact Bool.false_ne_true
  rw [List.filter_append, List.filter_cons, if_pos hp, hnone, hnil, List.nil_append]

/-- If no two members have a property, looking for it finds the one that has it. -/
theorem find?_eq_some_iff {p : α → Bool} {x : α}
    (h : xs.Pairwise fun a b => p a = true → p b = false) :
    xs.find? p = some x ↔ x ∈ xs ∧ p x = true := by
  refine ⟨fun hx => ⟨List.mem_of_find?_eq_some hx, List.find?_some hx⟩, fun ⟨hx, hp⟩ => ?_⟩
  rw [← List.head?_filter, filter_eq_singleton hx hp h, List.head?_cons]

/-! ### Up to a member without a property -/

variable {p : α → Bool} {x : α}

theorem takeWhile_append_cons (hxs : ∀ y ∈ xs, p y = true) (hx : p x = false) (rest : List α) :
    (xs ++ x :: rest).takeWhile p = xs := by
  rw [List.takeWhile_append_of_pos hxs, List.takeWhile_cons, hx, if_neg Bool.false_ne_true,
    List.append_nil]

theorem dropWhile_append_cons (hxs : ∀ y ∈ xs, p y = true) (hx : p x = false) (rest : List α) :
    (xs ++ x :: rest).dropWhile p = x :: rest := by
  rw [List.dropWhile_append_of_pos hxs, List.dropWhile_cons, hx, if_neg Bool.false_ne_true]

/-- A list is divided in one way only at the first member without a property. -/
theorem append_cons_inj {ys as bs : List α} (hxs : ∀ y ∈ xs, p y = true)
    (hys : ∀ y ∈ ys, p y = true) (hx : p x = false) (h : xs ++ x :: as = ys ++ x :: bs) :
    xs = ys ∧ as = bs := by
  have hstart := congrArg (List.takeWhile p) h
  rw [takeWhile_append_cons hxs hx, takeWhile_append_cons hys hx] at hstart
  have hrest := congrArg (List.dropWhile p) h
  rw [dropWhile_append_cons hxs hx, dropWhile_append_cons hys hx] at hrest
  exact ⟨hstart, (List.cons.inj hrest).2⟩

/-! ### Maxima -/

theorem le_foldl_max : ∀ (is : List Nat) (start : Nat),
    start ≤ is.foldl max start ∧ ∀ i ∈ is, i ≤ is.foldl max start
  | [], start => ⟨Nat.le_refl _, nofun⟩
  | a :: is, start => by
    obtain ⟨hs, his⟩ := le_foldl_max is (max start a)
    rw [List.foldl_cons]
    refine ⟨by omega, fun i hi => ?_⟩
    rcases List.mem_cons.mp hi with rfl | hi
    · omega
    · exact his i hi

theorem foldl_max_range' : ∀ n start : Nat,
    (List.range' (start + 1) n).foldl max start = start + n
  | 0, _ => rfl
  | n + 1, start => by
    have hmax : max start (start + 1) = start + 1 := by omega
    rw [List.range'_succ, List.foldl_cons, hmax, foldl_max_range' n (start + 1)]
    omega

end Lists
end StageRuns
