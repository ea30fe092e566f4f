/-
# Blanks and letter case

A text in lower case, blanks at its ends apart, keeps its form when it is trimmed and put
in lower case again (`Text.lower_trim_idem`): no character that case leads to has another
lower-case form, and none is blank. The tables are compared run by run
(`Text.Shift.Misses`). Texts that are the same up to the case of the letters A to Z have
the same lower-case form (`Text.lower_of_sameName`).

Key definitions: `Text.IsTrimmed`, `Text.IsLower`, `Text.Shift.Misses`, `Text.SameCase`.
Key theorems: `Text.trimChars_eq_self`, `Text.isTrimmed_trimChars`,
`Text.lowerAfter_eq_self`, `Text.lower_trim_idem`, `Text.lower_of_sameName`.
-/
import StageRuns.Proofs.Names

namespace StageRuns
namespace Text

/-! ### Blanks -/

/-- No digit is blank. -/
theorem isBlank_of_isDigit {c : Char} (h : c.isDigit = true) : isBlank c = false := by
  have hc : 48 ≤ c.toNat ∧ c.toNat ≤ 57 := Char.isDigit_iff_toNat.mp h
  simp only [isBlank, inRanges, blankRanges, List.any_cons, List.any_nil, Bool.or_eq_false_iff,
    Bool.and_eq_false_iff, decide_eq_false_iff_not, and_true]
  omega

theorem trimStart_cons {c : Char} (h : isBlank c = false) (cs : List Char) :
    trimStart (c :: cs) = c :: cs := by
  rw [trimStart, List.dropWhile_cons, if_neg (by rw [h]; exact Bool.false_ne_true)]

theorem trimStart_paddedDigits (width n : Nat) (rest : List Char) :
    trimStart (paddedDigits width n ++ rest) = paddedDigits width n ++ rest := by
  obtain ⟨c, cs, hcons, hdigit⟩ := exists_paddedDigits_eq_cons width n
  rw [hcons]
  exact trimStart_cons (isBlank_of_isDigit hdigit) (cs ++ rest)

/-- The characters neither start nor end with a blank. -/
structure IsTrimmed (cs : List Char) : Prop where
  start : ∀ c ∈ cs.head?, isBlank c = false
  finish : ∀ c ∈ cs.getLast?, isBlank c = false

theorem trimStart_eq_self {cs : List Char} (h : ∀ c ∈ cs.head?, isBlank c = false) :
    trimStart cs = cs := by
  cases cs with
  | nil => rfl
  | cons c cs => exact trimStart_cons (h c rfl) cs

theorem trimChars_eq_self {cs : List Char} (h : IsTrimmed cs) : trimChars cs = cs := by
  have hfinish : trimStart cs.reverse = cs.reverse := by
    apply trimStart_eq_self
    rw [List.head?_reverse]
    exact h.finish
  rw [trimChars, trimStart_eq_self h.start, hfinish, List.reverse_reverse]

theorem isBlank_head_trimStart (cs : List Char) :
    ∀ c ∈ (trimStart cs).head?, isBlank c = false := by
  have h := List.head?_dropWhile_not isBlank cs
  intro c hc
  rw [trimStart] at hc
  rw [hc] at h
  exact h

theorem isTrimmed_trimChars (cs : List Char) : IsTrimmed (trimChars cs) where
  start c hc := by
    have hsuffix : trimStart (trimStart cs).reverse <:+ (trimStart cs).reverse :=
      List.dropWhile_suffix _
    obtain ⟨ds, hds⟩ : trimChars cs <+: trimStart cs := by
      rw [trimChars, ← List.reverse_suffix, List.reverse_reverse]
      exact hsuffix
    refine isBlank_head_trimStart cs c ?_
    rw [← hds, List.head?_append, hc]
    rfl
  finish c hc := by
    rw [trimChars, List.getLast?_reverse] at hc
    exact isBlank_head_trimStart _ c hc

/-! ### Letter case -/

/-- The character is its own lower-case form, whatever stands around it. -/
def IsLower (c : Char) : Prop := c ≠ 'Σ' ∧ lowerChar c = [c]

instance (c : Char) : Decidable (IsLower c) := inferInstanceAs (Decidable (_ ∧ _))

theorem lowerAfter_eq_self : ∀ {cs : List Char} (before : List Char), (∀ c ∈ cs, IsLower c) →
    lowerAfter before cs = cs
  | [], _, _ => rfl
  | c :: cs, before, h => by
    obtain ⟨⟨hsigma, hc⟩, hcs⟩ := List.forall_mem_cons.mp h
    rw [lowerAfter, if_neg hsigma, hc, lowerAfter_eq_self (c :: before) hcs]
    rfl

namespace Shift

/-- The first code point that the run leads to. -/
def lowest (s : Shift) : Nat := (s.first + s.distance).toNat

/-- The last code point that the run leads to. -/
def highest (s : Shift) : Nat := (s.last + s.distance).toNat

/-- None of the characters that the run leads to is in the other run: they lie before it
or behind it, or between its members. -/
def Misses (s t : Shift) : Bool :=
  s.highest < t.first || t.last < s.lowest ||
    (s.step == 2 || s.first == s.last) && t.step == 2 && (s.lowest + t.first) % 2 == 1

/-- The run leads to characters that case leaves alone, and to none that is blank. -/
def LeadsToLower (s : Shift) : Bool :=
  lowerShifts.all s.Misses && blankRanges.all (fun r => s.highest < r.1 || r.2 < s.lowest) &&
    (s.highest < 0x130 || 0x130 < s.lowest) && (s.highest < 0x3a3 || 0x3a3 < s.lowest) &&
    (s.highest < 0xd800 || 0xe000 ≤ s.lowest && s.highest < 0x110000) && 0 ≤ s.first + s.distance

theorem apply?_eq_some {s : Shift} {c d : Char} (h : s.apply? c = some d) :
    s.first ≤ c.toNat ∧ c.toNat ≤ s.last ∧ (c.toNat - s.first) % s.step = 0 ∧
      d = Char.ofNat (c.toNat + s.distance).toNat := by
  simp only [ Shift.apply?, Option.ite_none_right_eq_some, Option.some.injEq] at h
  obtain ⟨⟨hfirst, hlast, hstep⟩, hd⟩ := h
  exact ⟨hfirst, hlast, hstep, hd.symm⟩

/-- What a run leads to is not in a run that it misses. -/
theorem apply?_eq_none {s t : Shift} {c d : Char} (h : s.Misses t = true)
    (hs : s.first ≤ c.toNat ∧ c.toNat ≤ s.last ∧ (c.toNat - s.first) % s.step = 0)
    (hleast : 0 ≤ s.first + s.distance) (hd : (d.toNat : Int) = c.toNat + s.distance) :
    t.apply? d = none := by
  obtain ⟨hfirst, hlast, hstep⟩ := hs
  unfold Shift.apply?
  refine if_neg ?_
  rintro ⟨hbelow, habove, htstep⟩
  simp only [Misses, Bool.or_eq_true, Bool.and_eq_true, decide_eq_true_eq, beq_iff_eq] at h
  unfold lowest highest at h
  rcases h with (h | h) | ⟨⟨hodd, htwo⟩, hparity⟩
  · omega
  · omega
  · rw [htwo] at htstep
    rcases hodd with htwo | honce
    · rw [htwo] at hstep
      omega
    · omega

end Shift

/-- No run of the table leads into another one, to a blank, or to a capital that is told
apart. -/
theorem leadsToLower_of_mem : ∀ s ∈ lowerShifts, s.LeadsToLower = true := by
  decide +kernel

/-- A run of the table leads to characters that are in no run. -/
theorem apply?_eq_none_of_apply? {s : Shift} {c d : Char} (hs : s ∈ lowerShifts)
    (h : s.apply? c = some d) : (∀ t ∈ lowerShifts, t.apply? d = none) ∧ d ≠ '\u0130' ∧ d ≠ 'Σ' ∧
      isBlank d = false := by
  obtain ⟨hfirst, hlast, hstep, hd⟩ := Shift.apply?_eq_some h
  have hleads := leadsToLower_of_mem s hs
  simp only [Shift.LeadsToLower, Bool.and_eq_true, Bool.or_eq_true, decide_eq_true_eq,
    List.all_eq_true] at hleads
  unfold Shift.lowest Shift.highest at hleads
  obtain ⟨⟨⟨⟨⟨hmisses, hblanks⟩, hdotted⟩, hsigma⟩, hvalid⟩, hleast⟩ := hleads
  have hnat : (d.toNat : Int) = c.toNat + s.distance := by
    have hchar : (c.toNat + s.distance).toNat.isValidChar := by
      unfold Nat.isValidChar
      omega
    have hofNat : (Char.ofNat (c.toNat + s.distance).toNat).toNat =
        (c.toNat + s.distance).toNat := by
      rw [Char.ofNat, dif_pos hchar]
      rfl
    rw [hd, hofNat]
    omega
  refine ⟨fun t ht => Shift.apply?_eq_none (hmisses t ht) ⟨hfirst, hlast, hstep⟩ hleast hnat,
    ?_, ?_, ?_⟩
  · rintro rfl
    have hdot : ('\u0130').toNat = 0x130 := rfl
    omega
  · rintro rfl
    have hnum : 'Σ'.toNat = 0x3a3 := rfl
    omega
  · rw [isBlank, inRanges, List.any_eq_false]
    intro r hr
    have hblank := hblanks r hr
    rw [Bool.and_eq_true, decide_eq_true_eq, decide_eq_true_eq]
    omega

/-- What a character has for a lower-case form is in lower case, and blank only if the
character is. -/
theorem isLower_of_mem_lowerChar {c d : Char} (h : d ∈ lowerChar c) (hc : c ≠ 'Σ') :
    IsLower d ∧ (isBlank c = false → isBlank d = false) := by
  unfold lowerChar at h
  by_cases hdotted : c = '\u0130'
  · rw [if_pos hdotted] at h
    rcases List.mem_cons.mp h with rfl | h
    · exact ⟨by decide, fun _ => by decide⟩
    · rw [List.mem_singleton.mp h]
      exact ⟨by decide, fun _ => by decide⟩
  rw [if_neg hdotted, List.mem_singleton] at h
  cases hs : lowerShifts.findSome? fun s => s.apply? c with
  | none =>
    rw [hs, Option.getD_none] at h
    rw [h]
    refine ⟨⟨hc, ?_⟩, id⟩
    rw [lowerChar, if_neg hdotted, hs, Option.getD_none]
  | some e =>
    rw [hs, Option.getD_some] at h
    rw [h]
    obtain ⟨s, hmem, happly⟩ := List.exists_of_findSome?_eq_some hs
    obtain ⟨hnone, hnotDotted, hsigma, hblank⟩ := apply?_eq_none_of_apply? hmem happly
    refine ⟨⟨hsigma, ?_⟩, fun _ => hblank⟩
    rw [lowerChar, if_neg hnotDotted, List.findSome?_eq_none_iff.mpr hnone, Option.getD_none]

theorem lowerAfter_cons (before : List Char) (c : Char) (cs : List Char) :
    ∃ form, form ≠ [] ∧ (∀ d ∈ form, IsLower d ∧ (isBlank c = false → isBlank d = false)) ∧
      lowerAfter before (c :: cs) = form ++ lowerAfter (c :: before) cs := by
  rw [lowerAfter]
  by_cases hc : c = 'Σ'
  · have hfinal : IsLower 'ς' ∧ isBlank 'ς' = false := by decide +kernel
    have hinner : IsLower 'σ' ∧ isBlank 'σ' = false := by decide +kernel
    rw [if_pos hc]
    split
    · exact ⟨['ς'], List.cons_ne_nil _ _,
        List.forall_mem_singleton.mpr ⟨hfinal.1, fun _ => hfinal.2⟩, rfl⟩
    · exact ⟨['σ'], List.cons_ne_nil _ _,
        List.forall_mem_singleton.mpr ⟨hinner.1, fun _ => hinner.2⟩, rfl⟩
  · rw [if_neg hc]
    refine ⟨lowerChar c, ?_, fun d hd => isLower_of_mem_lowerChar hd hc, rfl⟩
    unfold lowerChar
    split
    · exact List.cons_ne_nil _ _
    · exact List.cons_ne_nil _ _

theorem isLower_of_mem_lowerAfter {d : Char} : ∀ {cs : List Char} (before : List Char),
    d ∈ lowerAfter before cs → IsLower d
  | [], _, h => absurd h List.not_mem_nil
  | c :: cs, before, h => by
    obtain ⟨form, -, hform, heq⟩ := lowerAfter_cons before c cs
    rw [heq] at h
    rcases List.mem_append.mp h with h | h
    · exact (hform d h).1
    · exact isLower_of_mem_lowerAfter (c :: before) h

theorem isBlank_head_lowerAfter {cs : List Char} (before : List Char)
    (h : ∀ c ∈ cs.head?, isBlank c = false) :
    ∀ d ∈ (lowerAfter before cs).head?, isBlank d = false := by
  cases cs with
  | nil => exact nofun
  | cons c cs =>
    obtain ⟨form, hne, hform, heq⟩ := lowerAfter_cons before c cs
    intro d hd
    rw [heq, List.head?_append_of_ne_nil _ hne] at hd
    exact (hform d (List.mem_of_mem_head? hd)).2 (h c rfl)

theorem isBlank_getLast_lowerAfter : ∀ {cs : List Char} (before : List Char),
    (∀ c ∈ cs.getLast?, isBlank c = false) →
      ∀ d ∈ (lowerAfter before cs).getLast?, isBlank d = false
  | [], _, _ => nofun
  | [c], before, h => by
    obtain ⟨form, -, hform, heq⟩ := lowerAfter_cons before c []
    intro d hd
    rw [heq, lowerAfter, List.append_nil] at hd
    exact (hform d (List.mem_of_mem_getLast? hd)).2 (h c rfl)
  | c :: e :: cs, before, h => by
    obtain ⟨form, -, -, heq⟩ := lowerAfter_cons before c (e :: cs)
    obtain ⟨next, hne, -, hnext⟩ := lowerAfter_cons (c :: before) e cs
    have hrest : lowerAfter (c :: before) (e :: cs) ≠ [] := by
      rw [hnext]
      exact List.append_ne_nil_of_left_ne_nil hne _
    rw [List.getLast?_cons_cons] at h
    rw [heq, List.getLast?_append_of_ne_nil _ hrest]
    exact isBlank_getLast_lowerAfter (c :: before) h

theorem isTrimmed_lowerAfter {cs : List Char} (h : IsTrimmed cs) : IsTrimmed (lowerAfter [] cs) :=
  ⟨isBlank_head_lowerAfter [] h.start, isBlank_getLast_lowerAfter [] h.finish⟩

/-- A text that was trimmed and put in lower case is left alone when this is done again. -/
theorem lower_trim_idem (s : String) : lower (trim (lower (trim s))) = lower (trim s) := by
  have htrimmed := isTrimmed_lowerAfter (isTrimmed_trimChars s.toList)
  simp only [lower, trim, String.toList_ofList]
  rw [trimChars_eq_self htrimmed, lowerAfter_eq_self [] fun d hd => isLower_of_mem_lowerAfter [] hd]

/-! ### The letters A to Z -/

/-- The letters A to Z. -/
def capitals : List Char := (List.range 26).map fun i => Char.ofNat (65 + i)

theorem toLower_cases (c : Char) : c.toLower = c ∨ c ∈ capitals := by
  unfold Char.toLower
  split
  next h =>
    simp only [ge_iff_le, UInt32.le_iff_toNat_le] at h
    have hc : 65 ≤ c.toNat ∧ c.toNat ≤ 90 := h
    refine .inr (List.mem_map.mpr ⟨c.toNat - 65, List.mem_range.mpr (by omega), ?_⟩)
    rw [Nat.add_sub_cancel' hc.1, Char.ofNat_toNat]
  next => exact .inl rfl

/-- The lower-case form of a text is the same with the one character as with the other. -/
structure SameCase (c d : Char) : Prop where
  form : lowerChar c = lowerChar d
  cased : inRanges casedRanges c = inRanges casedRanges d
  ignorable : inRanges caseIgnorableRanges c = inRanges caseIgnorableRanges d
  sigma : c = 'Σ' ↔ d = 'Σ'

instance (c d : Char) : Decidable (SameCase c d) :=
  decidable_of_iff (lowerChar c = lowerChar d ∧
    inRanges casedRanges c = inRanges casedRanges d ∧
    inRanges caseIgnorableRanges c = inRanges caseIgnorableRanges d ∧ (c = 'Σ' ↔ d = 'Σ'))
    ⟨fun ⟨hf, hc, hi, hs⟩ => ⟨hf, hc, hi, hs⟩, fun h => ⟨h.form, h.cased, h.ignorable, h.sigma⟩⟩

theorem sameCase_of_mem_capitals {c : Char} (h : c ∈ capitals) : SameCase c.toLower c := by
  have hall : (capitals.all fun c => decide (SameCase c.toLower c)) = true := by decide +kernel
  exact of_decide_eq_true (List.all_eq_true.mp hall c h)

theorem sameCase_toLower (c : Char) : SameCase c.toLower c := by
  rcases toLower_cases c with h | h
  · rw [h]
    exact ⟨rfl, rfl, rfl, Iff.rfl⟩
  · exact sameCase_of_mem_capitals h

theorem meetsCased_map_toLower (cs : List Char) :
    meetsCased (cs.map Char.toLower) = meetsCased cs := by
  induction cs with
  | nil => rfl
  | cons c cs ih =>
    unfold meetsCased at ih ⊢
    rw [List.map_cons, List.dropWhile_cons, List.dropWhile_cons, (sameCase_toLower c).ignorable]
    by_cases hc : inRanges caseIgnorableRanges c = true
    · rw [if_pos hc, if_pos hc]
      exact ih
    · rw [if_neg hc, if_neg hc]
      exact (sameCase_toLower c).cased

theorem lowerAfter_map_toLower : ∀ before cs : List Char,
    lowerAfter (before.map Char.toLower) (cs.map Char.toLower) = lowerAfter before cs
  | _, [] => rfl
  | before, c :: cs => by
    have ih := lowerAfter_map_toLower (c :: before) cs
    rw [List.map_cons] at ih
    rw [List.map_cons, lowerAfter, lowerAfter, ih, meetsCased_map_toLower, meetsCased_map_toLower,
      (sameCase_toLower c).form]
    simp only [(sameCase_toLower c).sigma]

/-- The lower-case form does not tell texts apart that are the same up to the letters A to Z. -/
theorem lower_of_sameName {a b : String} (h : sameName a b = true) : lower a = lower b := by
  have hlower (s : String) : lower (asciiLower s) = lower s := by
    rw [lower, lower, asciiLower, String.toList_ofList]
    exact congrArg String.ofList (lowerAfter_map_toLower [] s.toList)
  rw [← hlower a, sameName_iff.mp h, hlower b]

end Text
end StageRuns
