/-
# New instances in the places of the selected ones

Merging goes through the old instances in their order: one that is not
selected leaves a copy, and a selected one is replaced by a piece of the
replacement that covers its job. If there are places enough for a replacement,
all its instances are laid down and none of them twice
(`mergeReplacements_perm`).

Key definitions: `Replacement.pieces`.
Key theorems: `Replacement.pieces_eq_jobs`, `mergeReplacements_perm`,
`filter_mergeReplacements`, `forall₂_mergeReplacements`, `exists_pieces`,
`filter_mergeReplacements_eq_pieces`, `mergeReplacements_append`.
-/
import StageRuns.Rerun.Stage
import StageRuns.Proofs.Rerun.Replacement
import Mathlib.Data.List.Perm.Basic

namespace StageRuns
namespace Replacement

/-- The pieces for `n` selected instances of the job, when `start` of them came
earlier. -/
def pieces (r : Replacement) (start n : Nat) : List JobInstance :=
  (List.range' start n).flatMap r.piece

theorem pieces_succ (r : Replacement) (start n : Nat) :
    r.pieces start (n + 1) = r.piece start ++ r.pieces (start + 1) n := by
  rw [pieces, List.range'_succ, List.flatMap_cons, pieces]

theorem mem_of_mem_piece {r : Replacement} {rank : Nat} {j : JobInstance} (h : j ∈ r.piece rank) :
    j ∈ r.jobs := by
  unfold piece at h
  split at h
  · split at h
    · exact h
    · cases h
  · rw [Option.mem_toList] at h
    exact List.mem_of_getElem? h

/-- After the first place, nothing is left of a block. -/
theorem piece_eq_nil {r : Replacement} (h : r.isBlock = true) {rank : Nat} (hr : rank ≠ 0) :
    r.piece rank = [] := by
  simp [piece, h, hr]

theorem piece_eq_toList {r : Replacement} (h : r.isBlock = false) {rank : Nat} :
    r.piece rank = r.jobs[rank]?.toList := by
  simp [piece, h]

/-- A block is laid down at the first place. -/
theorem pieces_block {r : Replacement} (h : r.isBlock = true) {n : Nat} (hn : n ≠ 0) :
    r.pieces 0 n = r.jobs := by
  obtain ⟨m, rfl⟩ := Nat.exists_eq_succ_of_ne_zero hn
  have hrest : r.pieces 1 m = [] := by
    rw [pieces, List.flatMap_eq_nil_iff]
    intro i hi
    have : i ≠ 0 := by
      have := (List.mem_range'_1.mp hi).1
      omega
    exact piece_eq_nil h this
  rw [Nat.succ_eq_add_one, pieces_succ, Nat.zero_add, hrest, List.append_nil]
  simp [piece, h]

/-- Instances that are no block are laid down one by one. -/
theorem pieces_take {r : Replacement} (h : r.isBlock = false) :
    ∀ n : Nat, r.pieces 0 n = r.jobs.take n
  | 0 => rfl
  | n + 1 => by
    have hlast : r.pieces 0 (n + 1) = r.pieces 0 n ++ r.piece n := by
      simp [pieces, List.range'_concat]
    rw [hlast, pieces_take h n, List.take_add_one, piece_eq_toList h]

/-- Everything is laid down when there are places enough. -/
theorem pieces_eq_jobs {r : Replacement} {n : Nat} (hb : r.isBlock = true → n ≠ 0)
    (ho : r.isBlock = false → r.jobs.length ≤ n) : r.pieces 0 n = r.jobs := by
  cases h : r.isBlock with
  | true => exact pieces_block h (hb h)
  | false => rw [pieces_take h, List.take_of_length_le (ho h)]

end Replacement

/-! ### Merging -/

section Merge

variable {isSelected : JobInstance → Bool} {keep : JobInstance → JobInstance}
  {rs : List Replacement}

/-- The replacement of a job that an instance was made of covers its siblings. -/
theorem covers_congr {r : Replacement} {a : JobInstance} (h : r.covers a = true)
    (b : JobInstance) : a.isSibling b = r.covers b :=
  (Text.sameName_congr h _).symm

/-- Replacements of different jobs do not cover one instance. -/
theorem covers_eq_false {r t : Replacement} {job : JobInstance} (hc : r.covers job = true)
    (h : Text.sameName r.base t.base = false) : t.covers job = false := by
  rw [Replacement.covers, Text.sameName_comm, ← Text.sameName_congr hc]
  exact h

theorem mem_of_mem_pieceFor {earlier : List JobInstance} {job j : JobInstance}
    (h : j ∈ pieceFor rs earlier job) : ∃ r ∈ rs, j ∈ r.jobs := by
  unfold pieceFor at h
  split at h
  case h_1 r hr => exact ⟨r, List.mem_of_find?_eq_some hr, Replacement.mem_of_mem_piece h⟩
  case h_2 => cases h

/-- Instead of looking for the replacement of an instance, all of them may be
asked. -/
theorem pieceFor_eq_flatMap (earlier : List JobInstance) (job : JobInstance) :
    ∀ {rs : List Replacement}, (rs.Pairwise fun r t => Text.sameName r.base t.base = false) →
      pieceFor rs earlier job =
        rs.flatMap fun r => if r.covers job then r.piece (earlier.countP r.covers) else []
  | [], _ => rfl
  | r :: rs, h => by
    obtain ⟨hr, hrs⟩ := List.pairwise_cons.mp h
    have ih := pieceFor_eq_flatMap earlier job hrs
    unfold pieceFor at ih ⊢
    rw [List.find?_cons, List.flatMap_cons]
    cases hc : r.covers job with
    | true =>
      have hnone : (rs.flatMap fun t =>
          if t.covers job then t.piece (earlier.countP t.covers) else []) = [] := by
        rw [List.flatMap_eq_nil_iff]
        intro t ht
        rw [covers_eq_false hc (hr t ht)]
        rfl
      rw [hnone, List.append_nil]
      simp only [↓reduceIte]
      congr 1
      exact List.countP_congr fun k _ => by rw [covers_congr hc k]
    | false =>
      simp only [Bool.false_eq_true, ↓reduceIte, List.nil_append]
      exact ih

/-- What is left of the pieces at a selected instance: one piece, and the pieces
for the selected instances after it. -/
theorem flatMap_pieces_perm (earlier rest : List JobInstance) (job : JobInstance)
    (rs : List Replacement) :
    (rs.flatMap fun r => r.pieces (earlier.countP r.covers) ((job :: rest).countP r.covers)).Perm
      ((rs.flatMap fun r => if r.covers job then r.piece (earlier.countP r.covers) else []) ++
        rs.flatMap fun r =>
          r.pieces ((job :: earlier).countP r.covers) (rest.countP r.covers)) := by
  refine List.Perm.trans (List.Perm.of_eq ?_) (List.flatMap_append_perm rs _ _).symm
  congr 1
  funext r
  cases hc : r.covers job with
  | true => simp [hc, Replacement.pieces_succ]
  | false => simp [hc]

/-- Merging lays down each copy and each new instance once. -/
theorem mergeReplacements_perm
    (hrs : rs.Pairwise fun r t => Text.sameName r.base t.base = false) :
    ∀ rest earlier : List JobInstance,
      (mergeReplacements isSelected keep rs earlier rest).Perm
        ((rest.filter fun j => !isSelected j).map keep ++
          rs.flatMap fun r => r.pieces (earlier.countP r.covers)
            ((rest.filter isSelected).countP r.covers))
  | [], earlier => by simp [mergeReplacements, Replacement.pieces]
  | job :: rest, earlier => by
    rw [mergeReplacements]
    cases hs : isSelected job with
    | true =>
      have ih := mergeReplacements_perm hrs rest (job :: earlier)
      have hp := flatMap_pieces_perm earlier (rest.filter isSelected) job rs
      rw [← pieceFor_eq_flatMap earlier job hrs] at hp
      simp only [↓reduceIte, List.filter_cons, hs, Bool.not_true, Bool.false_eq_true]
      -- the piece moves past the copies to the others of its replacement
      refine (ih.append_left _).trans (List.Perm.trans ?_ (hp.symm.append_left _))
      rw [← List.append_assoc, ← List.append_assoc]
      exact List.perm_append_comm.append_right _
    | false =>
      have ih := mergeReplacements_perm hrs rest earlier
      simp only [Bool.false_eq_true, ↓reduceIte, List.filter_cons, hs, Bool.not_false,
        List.map_cons, List.cons_append]
      exact ih.cons _

/-- A merged instance is a copy or a new instance. -/
theorem mem_mergeReplacements {j : JobInstance} : ∀ {rest earlier : List JobInstance},
    j ∈ mergeReplacements isSelected keep rs earlier rest →
      (∃ k ∈ rest, isSelected k = false ∧ j = keep k) ∨ ∃ r ∈ rs, j ∈ r.jobs
  | job :: rest, earlier, h => by
    rw [mergeReplacements] at h
    cases hs : isSelected job with
    | true =>
      rw [hs, if_pos rfl] at h
      rcases List.mem_append.mp h with h | h
      · exact .inr (mem_of_mem_pieceFor h)
      · exact (mem_mergeReplacements h).imp_left fun ⟨k, hk, hj⟩ =>
          ⟨k, List.mem_cons_of_mem _ hk, hj⟩
    | false =>
      rw [hs, if_neg Bool.false_ne_true] at h
      rcases List.mem_cons.mp h with rfl | h
      · exact .inl ⟨job, List.mem_cons_self, hs, rfl⟩
      · exact (mem_mergeReplacements h).imp_left fun ⟨k, hk, hj⟩ =>
          ⟨k, List.mem_cons_of_mem _ hk, hj⟩

/-- If only copies have a property, those who have it are the copies of the
instances that were not selected, in their order. -/
theorem filter_mergeReplacements {p : JobInstance → Bool} (hkeep : ∀ j, p (keep j) = true)
    (hnew : ∀ r ∈ rs, ∀ j ∈ r.jobs, p j = false) : ∀ rest earlier : List JobInstance,
      (mergeReplacements isSelected keep rs earlier rest).filter p =
        (rest.filter fun j => !isSelected j).map keep
  | [], _ => rfl
  | job :: rest, earlier => by
    rw [mergeReplacements]
    cases hs : isSelected job with
    | true =>
      have hpiece : (pieceFor rs earlier job).filter p = [] := by
        rw [List.filter_eq_nil_iff]
        intro j hj
        obtain ⟨r, hr, hj⟩ := mem_of_mem_pieceFor hj
        simp [hnew r hr j hj]
      rw [if_pos rfl, List.filter_append, hpiece, filter_mergeReplacements hkeep hnew]
      simp [hs]
    | false =>
      rw [if_neg Bool.false_ne_true, List.filter_cons, if_pos (hkeep job),
        filter_mergeReplacements hkeep hnew]
      simp [hs]

/-- If two selections agree and what is kept of the instances that are not selected is
related, so is what the instances are merged to, place by place. -/
theorem forall₂_mergeReplacements {R : JobInstance → JobInstance → Prop} (hrefl : ∀ j, R j j)
    {isSelected' : JobInstance → Bool} {keep' : JobInstance → JobInstance} :
    ∀ {rest : List JobInstance} (earlier : List JobInstance),
      (∀ j ∈ rest, isSelected j = isSelected' j) →
      (∀ j ∈ rest, isSelected j = false → R (keep j) (keep' j)) →
        List.Forall₂ R (mergeReplacements isSelected keep rs earlier rest)
          (mergeReplacements isSelected' keep' rs earlier rest)
  | [], _, _, _ => .nil
  | job :: rest, earlier, hsel, hkeep => by
    obtain ⟨hjob, hsel⟩ := List.forall_mem_cons.mp hsel
    obtain ⟨hkept, hkeep⟩ := List.forall_mem_cons.mp hkeep
    rw [mergeReplacements, mergeReplacements, ← hjob]
    cases hs : isSelected job with
    | true =>
      have hpiece : List.Forall₂ R (pieceFor rs earlier job) (pieceFor rs earlier job) :=
        List.forall₂_same.mpr fun j _ => hrefl j
      exact List.rel_append hpiece (forall₂_mergeReplacements hrefl _ hsel hkeep)
    | false => exact .cons (hkept hs) (forall₂_mergeReplacements hrefl _ hsel hkeep)

/-- Merging lays down one piece in the place of each instance, with a property that the
copies and the pieces of the replacements have. -/
theorem exists_pieces {P : JobInstance → List JobInstance → Prop} :
    ∀ {rest earlier : List JobInstance},
      (∀ j ∈ rest, isSelected j = false → P j [keep j]) →
      (∀ before j after, rest = before ++ j :: after → isSelected j = true →
        P j (pieceFor rs ((before.filter isSelected).reverse ++ earlier) j)) →
      ∃ pieces : List (List JobInstance),
        mergeReplacements isSelected keep rs earlier rest = pieces.flatten ∧
          List.Forall₂ P rest pieces
  | [], _, _, _ => ⟨[], rfl, .nil⟩
  | job :: rest, earlier, hkeep, hpiece => by
    obtain ⟨hjob, hkeep⟩ := List.forall_mem_cons.mp hkeep
    rw [mergeReplacements]
    cases hs : isSelected job with
    | true =>
      obtain ⟨pieces, hmerge, hpieces⟩ := exists_pieces hkeep
        fun before j after hsplit hj => by
          have h := hpiece (job :: before) j after (by rw [hsplit, List.cons_append]) hj
          simpa [hs] using h
      have hfirst : P job (pieceFor rs earlier job) := hpiece [] job rest rfl hs
      exact ⟨pieceFor rs earlier job :: pieces, by rw [hmerge]; rfl, .cons hfirst hpieces⟩
    | false =>
      obtain ⟨pieces, hmerge, hpieces⟩ := exists_pieces hkeep
        fun before j after hsplit hj => by
          have h := hpiece (job :: before) j after (by rw [hsplit, List.cons_append]) hj
          simpa [hs] using h
      exact ⟨[keep job] :: pieces, by rw [hmerge]; rfl, .cons (hjob hs) hpieces⟩

theorem find?_covers {r : Replacement} {job : JobInstance} (hc : r.covers job = true) :
    ∀ {rs : List Replacement}, r ∈ rs →
      (rs.Pairwise fun r t => Text.sameName r.base t.base = false) →
        (rs.find? fun t => t.covers job) = some r
  | t :: rs, hr, hrs => by
    obtain ⟨ht, hrs⟩ := List.pairwise_cons.mp hrs
    rcases List.mem_cons.mp hr with rfl | hr
    · exact List.find?_cons_of_pos hc
    · have htc : t.covers job = false :=
        covers_eq_false hc (by rw [Text.sameName_comm]; exact ht r hr)
      rw [List.find?_cons_of_neg (by simp [htc]), find?_covers hc hr hrs]

/-- If the instances of one replacement are those that have a property, they are
found in the order of its pieces. -/
theorem filter_mergeReplacements_eq_pieces {p : JobInstance → Bool} {r : Replacement}
    (hr : r ∈ rs) (hrs : rs.Pairwise fun r t => Text.sameName r.base t.base = false)
    (hkeep : ∀ j, p (keep j) = false) (hown : ∀ j ∈ r.jobs, p j = true)
    (hother : ∀ t ∈ rs, Text.sameName r.base t.base = false → ∀ j ∈ t.jobs, p j = false) :
    ∀ rest earlier : List JobInstance,
      (mergeReplacements isSelected keep rs earlier rest).filter p =
        r.pieces (earlier.countP r.covers) ((rest.filter isSelected).countP r.covers)
  | [], _ => rfl
  | job :: rest, earlier => by
    rw [mergeReplacements]
    cases hs : isSelected job with
    | false =>
      rw [if_neg Bool.false_ne_true, List.filter_cons, hkeep job, if_neg Bool.false_ne_true,
        filter_mergeReplacements_eq_pieces hr hrs hkeep hown hother, List.filter_cons, hs,
        if_neg Bool.false_ne_true]
    | true =>
      have ih := filter_mergeReplacements_eq_pieces hr hrs hkeep hown hother rest (job :: earlier)
      rw [if_pos rfl, List.filter_append, ih, List.filter_cons, hs, if_pos rfl, List.countP_cons,
        List.countP_cons]
      cases hc : r.covers job with
      | true =>
        have hpiece : (pieceFor rs earlier job).filter p = r.piece (earlier.countP r.covers) := by
          rw [pieceFor, find?_covers hc hr hrs]
          simp only
          rw [List.countP_congr fun k _ => by rw [covers_congr hc k], List.filter_eq_self]
          exact fun j hj => hown j (Replacement.mem_of_mem_piece hj)
        rw [hpiece]
        simp only [↓reduceIte, Replacement.pieces_succ]
      | false =>
        have hpiece : (pieceFor rs earlier job).filter p = [] := by
          rw [pieceFor]
          split
          case h_1 t ht =>
            rw [List.filter_eq_nil_iff]
            intro j hj
            have htc := List.find?_some ht
            have hrt : Text.sameName r.base t.base = false := by
              rw [Bool.eq_false_iff]
              intro he
              rw [Replacement.covers, Text.sameName_congr he] at hc
              exact Bool.eq_false_iff.mp hc htc
            rw [hother t (List.mem_of_find?_eq_some ht) hrt j (Replacement.mem_of_mem_piece hj)]
            exact Bool.false_ne_true
          case h_2 => rfl
        rw [hpiece]
        simp

/-- Selected instances of one job in a row are replaced in a row. -/
theorem mergeReplacements_append {r : Replacement} (hr : r ∈ rs)
    (hrs : rs.Pairwise fun r t => Text.sameName r.base t.base = false)
    (rest : List JobInstance) : ∀ row earlier : List JobInstance,
      (∀ j ∈ row, isSelected j = true ∧ r.covers j = true) →
        mergeReplacements isSelected keep rs earlier (row ++ rest) =
          r.pieces (earlier.countP r.covers) row.length ++
            mergeReplacements isSelected keep rs (row.reverse ++ earlier) rest
  | [], _, _ => rfl
  | job :: row, earlier, h => by
    obtain ⟨⟨hs, hc⟩, hrow⟩ := List.forall_mem_cons.mp h
    have hpiece : pieceFor rs earlier job = r.piece (earlier.countP r.covers) := by
      rw [pieceFor, find?_covers hc hr hrs]
      exact congrArg r.piece (List.countP_congr fun k _ => by rw [covers_congr hc k])
    rw [List.cons_append, mergeReplacements, hs, if_pos rfl, hpiece,
      mergeReplacements_append hr hrs rest row (job :: earlier) hrow, List.length_cons,
      Replacement.pieces_succ, List.countP_cons, hc]
    simp

end Merge
end StageRuns
