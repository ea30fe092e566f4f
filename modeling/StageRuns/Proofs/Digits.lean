/-
# Numbers in ASCII digits

One or more ASCII digits are read as the number that they write, and nothing else is read
as a number (`Text.natOfDigits?_eq_some_iff`). So a number is read back from the digits
that it is written in, and also with zeros in front (`Text.natOfDigits?_digitsOfNat`,
`Text.natOfDigits?_paddedDigits`). Digits are just those that their number is written in
exactly if they do not start with a zero in front of other digits
(`Text.digitsOfNat_ofDigitChars_iff`).

Key definitions: `Text.HasSpareZero`.
Key theorems: `Text.natOfDigits?_eq_some_iff`, `Text.natOfDigits?_digitsOfNat`,
`Text.natOfDigits?_paddedDigits`, `Text.digitsOfNat_ofDigitChars_iff`.
-/
import StageRuns.Text.Digit

namespace StageRuns
namespace Text

variable {cs : List Char} {n : Nat}

/-! ### Digits that are read -/

theorem readDigits_of_digits : ∀ (cs : List Char) (start : Nat), (∀ c ∈ cs, c.isDigit = true) →
    readDigits start cs = some (Nat.ofDigitChars 10 cs start)
  | [], _, _ => rfl
  | c :: cs, start, h => by
    have hc : c.isDigit = true := h c List.mem_cons_self
    have hcs : ∀ d ∈ cs, d.isDigit = true := fun d hd => h d (List.mem_cons_of_mem _ hd)
    rw [readDigits, if_pos hc, readDigits_of_digits cs _ hcs, Nat.ofDigitChars_cons, Nat.mul_comm]
    rfl

theorem readDigits_eq_none : ∀ {cs : List Char} (start : Nat), (¬ ∀ c ∈ cs, c.isDigit = true) →
    readDigits start cs = none
  | [], _, h => absurd (fun _ hc => absurd hc List.not_mem_nil) h
  | c :: cs, start, h => by
    rw [readDigits]
    split
    next hc => exact readDigits_eq_none _ fun hcs => h (List.forall_mem_cons.mpr ⟨hc, hcs⟩)
    next => rfl

/-- Other characters are not read. -/
theorem natOfDigits?_eq_none (h : ¬ ∀ c ∈ cs, c.isDigit = true) : natOfDigits? cs = none := by
  cases cs with
  | nil => rfl
  | cons c cs => exact readDigits_eq_none 0 h

/-- One or more ASCII digits are read as the number that they write, and nothing else is
read. -/
theorem natOfDigits?_eq_some_iff : natOfDigits? cs = some n ↔
    cs ≠ [] ∧ (∀ c ∈ cs, c.isDigit = true) ∧ Nat.ofDigitChars 10 cs 0 = n := by
  by_cases hdigits : ∀ c ∈ cs, c.isDigit = true
  · cases cs with
    | nil => exact ⟨nofun, fun h => absurd rfl h.1⟩
    | cons c cs =>
      rw [natOfDigits?, readDigits_of_digits _ 0 hdigits, Option.some_inj]
      · exact ⟨fun h => ⟨List.cons_ne_nil c cs, hdigits, h⟩, fun h => h.2.2⟩
      · exact List.cons_ne_nil c cs
  · rw [natOfDigits?_eq_none hdigits]
    exact ⟨nofun, fun h => absurd h.2.1 hdigits⟩

/-! ### Digits that are written -/

theorem isDigit_of_mem_digitsOfNat {c : Char} (h : c ∈ digitsOfNat n) : c.isDigit = true :=
  Nat.isDigit_of_mem_toDigits (by decide) (by decide) h

theorem digitsOfNat_ne_nil (n : Nat) : digitsOfNat n ≠ [] := Nat.toDigits_ne_nil

/-- The digits of a number write that number. -/
theorem natOfDigits?_digitsOfNat (n : Nat) : natOfDigits? (digitsOfNat n) = some n :=
  natOfDigits?_eq_some_iff.mpr ⟨digitsOfNat_ne_nil n, fun _ => isDigit_of_mem_digitsOfNat,
    Nat.ofDigitChars_ten_toDigits⟩

theorem digitsOfNat_inj {m n : Nat} (h : digitsOfNat m = digitsOfNat n) : m = n := by
  have hm := natOfDigits?_digitsOfNat m
  rw [h, natOfDigits?_digitsOfNat n] at hm
  exact (Option.some.inj hm).symm

theorem isDigit_ne_dash {c : Char} (h : c.isDigit = true) : c ≠ '-' := by
  rintro rfl
  simp at h

theorem dash_notMem_digitsOfNat (n : Nat) : '-' ∉ digitsOfNat n := fun h =>
  isDigit_ne_dash (isDigit_of_mem_digitsOfNat h) rfl

theorem digitsOfNat_of_le (h : 10 ≤ n) :
    digitsOfNat n = digitsOfNat (n / 10) ++ [Nat.digitChar (n % 10)] :=
  Nat.toDigits_of_base_le (by decide) h

theorem exists_digitsOfNat_eq_cons (n : Nat) :
    ∃ c cs, digitsOfNat n = c :: cs ∧ c.isDigit = true := by
  obtain ⟨c, cs, hcons⟩ := List.exists_cons_of_ne_nil (digitsOfNat_ne_nil n)
  exact ⟨c, cs, hcons, isDigit_of_mem_digitsOfNat (hcons ▸ List.mem_cons_self)⟩

/-- Only zero is written with a zero in front. -/
theorem head?_digitsOfNat {n : Nat} (h : 0 < n) : (digitsOfNat n).head? ≠ some '0' := by
  by_cases h10 : n < 10
  · have hdigits : digitsOfNat n = [Nat.digitChar n] := Nat.toDigits_of_lt_base h10
    rw [hdigits, List.head?_cons, ne_eq, Option.some_inj, Nat.digitChar_eq_zero]
    omega
  · rw [digitsOfNat_of_le (by omega), List.head?_append]
    have ih := head?_digitsOfNat (n := n / 10) (by omega)
    obtain ⟨c, cs, hcons, -⟩ := exists_digitsOfNat_eq_cons (n / 10)
    rw [hcons] at ih ⊢
    exact ih

/-! ### Digits with zeros in front up to a width -/

theorem isDigit_of_mem_paddedDigits {width n : Nat} {c : Char} (h : c ∈ paddedDigits width n) :
    c.isDigit = true := by
  rcases List.mem_append.mp h with h | h
  · rw [List.eq_of_mem_replicate h]
    rfl
  · exact isDigit_of_mem_digitsOfNat h

theorem exists_paddedDigits_eq_cons (width n : Nat) :
    ∃ c cs, paddedDigits width n = c :: cs ∧ c.isDigit = true := by
  have hne : paddedDigits width n ≠ [] := fun h =>
    digitsOfNat_ne_nil n (List.append_eq_nil_iff.mp h).2
  obtain ⟨c, cs, hcons⟩ := List.exists_cons_of_ne_nil hne
  exact ⟨c, cs, hcons, isDigit_of_mem_paddedDigits (hcons ▸ List.mem_cons_self)⟩

theorem length_paddedDigits {width n : Nat} (hw : 0 < width) (h : n < Nat.pow 10 width) :
    (paddedDigits width n).length = width := by
  have hlength : (digitsOfNat n).length ≤ width :=
    (Nat.length_toDigits_le_iff (by decide) hw).mpr h
  rw [paddedDigits, List.length_append, List.length_replicate]
  omega

/-- Zeros in front do not change the number. -/
theorem natOfDigits?_paddedDigits (width n : Nat) :
    natOfDigits? (paddedDigits width n) = some n := by
  obtain ⟨c, cs, hcons, -⟩ := exists_paddedDigits_eq_cons width n
  have hn : Nat.ofDigitChars 10 (paddedDigits width n) 0 = n := by
    rw [paddedDigits, Nat.ofDigitChars_append, Nat.ofDigitChars_replicate_zero, Nat.mul_zero]
    exact Nat.ofDigitChars_ten_toDigits
  exact natOfDigits?_eq_some_iff.mpr
    ⟨hcons ▸ List.cons_ne_nil c cs, fun _ => isDigit_of_mem_paddedDigits, hn⟩

theorem paddedDigits_append_ne {width n : Nat} {mark : Char} (h : mark.isDigit = false)
    {rest cs : List Char} : paddedDigits width n ++ rest ≠ mark :: cs := by
  obtain ⟨c, ds, hcons, hdigit⟩ := exists_paddedDigits_eq_cons width n
  intro heq
  rw [hcons, List.cons_append, List.cons.injEq] at heq
  rw [heq.1, h] at hdigit
  cases hdigit

/-! ### Digits that are written back -/

/-- The digits start with a zero in front of other digits. -/
def HasSpareZero (digits : List Char) : Prop := ∃ d ds, digits = '0' :: d :: ds

theorem digitsOfNat_of_isDigit {c : Char} (h : c.isDigit = true) :
    c.toNat - 48 < 10 ∧ digitsOfNat (c.toNat - 48) = [c] := by
  have hc : 48 ≤ c.toNat ∧ c.toNat ≤ 57 := Char.isDigit_iff_toNat.mp h
  have hlt : c.toNat - 48 < 10 := by omega
  have hchar : Nat.digitChar (c.toNat - 48) = c := by
    apply Char.toNat_inj.mp
    rw [Nat.toNat_digitChar_of_lt_ten hlt]
    omega
  have hdigits : digitsOfNat (c.toNat - 48) = [Nat.digitChar (c.toNat - 48)] :=
    Nat.toDigits_of_lt_base hlt
  exact ⟨hlt, hdigits.trans (by rw [hchar])⟩

/-- Digits that go on with a number that is not zero stand behind its digits. -/
theorem digitsOfNat_ofDigitChars : ∀ {cs : List Char} {start : Nat}, 0 < start →
    (∀ c ∈ cs, c.isDigit = true) →
      digitsOfNat (Nat.ofDigitChars 10 cs start) = digitsOfNat start ++ cs
  | [], _, _, _ => (List.append_nil _).symm
  | c :: cs, start, hstart, h => by
    obtain ⟨hc, hcs⟩ := List.forall_mem_cons.mp h
    obtain ⟨hlt, hdigit⟩ := digitsOfNat_of_isDigit hc
    have hnext : digitsOfNat (10 * start + (c.toNat - 48)) = digitsOfNat start ++ [c] := by
      rw [← hdigit]
      exact (Nat.toDigits_append_toDigits (by decide) hstart hlt).symm
    have hpos : 0 < 10 * start + (c.toNat - 48) := by omega
    have ih := digitsOfNat_ofDigitChars hpos hcs
    rw [Nat.ofDigitChars_cons]
    exact ih.trans (by rw [hnext, List.append_assoc, List.singleton_append])

/-- Digits are those that their number is written in exactly if they have no spare zero. -/
theorem digitsOfNat_ofDigitChars_iff (hne : cs ≠ []) (h : ∀ c ∈ cs, c.isDigit = true) :
    digitsOfNat (Nat.ofDigitChars 10 cs 0) = cs ↔ ¬ HasSpareZero cs := by
  constructor
  · rintro heq ⟨d, ds, rfl⟩
    generalize Nat.ofDigitChars 10 ('0' :: d :: ds) 0 = n at heq
    cases n with
    | zero => cases heq
    | succ n =>
      apply head?_digitsOfNat (Nat.succ_pos n)
      rw [heq, List.head?_cons]
  · intro hspare
    obtain ⟨c, cs, rfl⟩ := List.exists_cons_of_ne_nil hne
    obtain ⟨hc, hcs⟩ := List.forall_mem_cons.mp h
    have hfirst := (digitsOfNat_of_isDigit hc).2
    have hvalue : Nat.ofDigitChars 10 (c :: cs) 0 = Nat.ofDigitChars 10 cs (c.toNat - 48) := by
      rw [Nat.ofDigitChars_cons, Nat.mul_zero, Nat.zero_add]
      rfl
    rw [hvalue]
    rcases Nat.eq_zero_or_pos (c.toNat - 48) with hzero | hpos
    · -- a zero in front is the only digit
      have hc0 : c = '0' := by
        rw [hzero] at hfirst
        exact (List.cons.inj hfirst).1.symm
      cases cs with
      | nil => exact hfirst
      | cons d ds => exact absurd ⟨d, ds, by rw [hc0]⟩ hspare
    · rw [digitsOfNat_ofDigitChars hpos hcs, hfirst, List.singleton_append]

end Text
end StageRuns
