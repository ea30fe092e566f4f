/-
# Templates of labels

A template is text with placeholders (`Placeholder.IsValid`, `Placeholder.written`). Read
from left to right, a placeholder is taken wherever one starts, and any other character
is literal: so the grammar tells what a template is made of (`Splits`), and in just one
way (`splits_iff`). That a key may hold dollar signs and opening braces does no harm: at
a given place, no two placeholders start (`readPlaceholder?_eq_some`).

A label is the template with each placeholder replaced by what it stands for, if it
stands for something. What comes in for a placeholder is not read again: the label is
that of the text before it, what comes in, and the label of the text after it
(`Values.expand_of_splits`).

Key definitions: `Label.Placeholder.IsValid`, `Label.Segment.written`,
`Label.Segment.filled`, `Label.Splits`.
Key theorems: `Label.readPlaceholder?_eq_some`, `Label.splits_iff`,
`Label.Splits.front`, `Label.Values.expand_of_splits`.
-/
import StageRuns.Label
import StageRuns.Proofs.Lists
import Mathlib.Data.List.TakeWhile

namespace StageRuns
namespace Label

/-- A key that is not empty and holds no brace to close it and no bracket; a number of
characters to keep has digits. -/
structure Placeholder.IsValid (p : Placeholder) : Prop where
  key_ne_nil : p.key ≠ []
  key : ∀ c ∈ p.key, isKeyChar c = true
  keep_ne_nil : p.keep ≠ some []
  keep : ∀ digits, p.keep = some digits → ∀ d ∈ digits, Text.isDecimalDigit d = true

/-- A placeholder is what the text starts with. -/
def StartsPlaceholder (cs : List Char) : Prop :=
  ∃ p : Placeholder, p.IsValid ∧ p.written <+: cs

/-- The part of a template as it is written. -/
def Segment.written : Segment → List Char
  | .literal c => [c]
  | .placeholder p => p.written

/-- The part with what its placeholder stands for, or as it is written if that is nothing. -/
def Segment.filled (meaning : Placeholder → Option String) : Segment → List Char
  | .literal c => [c]
  | .placeholder p => ((meaning p).map String.toList).getD p.written

/-- The parts of a text from left to right: a placeholder wherever one starts, and the
characters between them. -/
inductive Splits : List Char → List Segment → Prop
  | nil : Splits [] []
  | literal {c : Char} {cs : List Char} {parts : List Segment} : ¬ StartsPlaceholder (c :: cs) →
      Splits cs parts → Splits (c :: cs) (.literal c :: parts)
  | placeholder {p : Placeholder} {cs : List Char} {parts : List Segment} : p.IsValid →
      Splits cs parts → Splits (p.written ++ cs) (.placeholder p :: parts)

variable {p : Placeholder} {cs rest : List Char} {parts : List Segment}

/-! ### One placeholder -/

theorem isKeyChar_brace : isKeyChar '\x7d' = false := by decide

theorem isKeyChar_bracket : isKeyChar '[' = false := by decide

theorem isDecimalDigit_bracket : Text.isDecimalDigit ']' = false := by decide

/-- What is read as a placeholder is one, as it is written. -/
theorem readPlaceholder?_sound (h : readPlaceholder? cs = some (p, rest)) :
    p.IsValid ∧ '$' :: '\x7b' :: cs = p.written ++ rest := by
  have hcs := List.takeWhile_append_dropWhile (p := isKeyChar) (l := cs)
  have hkey : ∀ c ∈ cs.takeWhile isKeyChar, isKeyChar c = true := fun _ => List.mem_takeWhile_imp
  unfold readPlaceholder? at h
  simp only at h
  split at h
  · cases h
  next hempty =>
    rw [List.isEmpty_iff] at hempty
    split at h
    next after hdrop =>
      cases h
      refine ⟨⟨hempty, hkey, nofun, nofun⟩, ?_⟩
      rw [hdrop] at hcs
      conv_lhs => rw [← hcs]
      simp [Placeholder.written]
    next after hdrop =>
      have hafter := List.takeWhile_append_dropWhile (p := Text.isDecimalDigit) (l := after)
      split at h
      · cases h
      next hdigits =>
        rw [List.isEmpty_iff] at hdigits
        split at h
        next hend =>
          cases h
          refine ⟨⟨hempty, hkey, fun he => hdigits (Option.some.inj he), fun digits he d hd => ?_⟩, ?_⟩
          · cases he
            exact List.mem_takeWhile_imp hd
          · rw [hdrop] at hcs
            rw [hend] at hafter
            conv_lhs => rw [← hcs, ← hafter]
            simp [Placeholder.written]
        next => cases h
    next => cases h

/-- A placeholder is read where it is written, and the text after it is left. -/
theorem readPlaceholder?_written (hp : p.IsValid)
    (h : '$' :: '\x7b' :: cs = p.written ++ rest) : readPlaceholder? cs = some (p, rest) := by
  obtain ⟨key, keep⟩ := p
  obtain ⟨hne, hkey, hkeep, hdigit⟩ := hp
  have hempty : key.isEmpty = false := by
    rw [Bool.eq_false_iff, ne_eq, List.isEmpty_iff]
    exact hne
  cases keep with
  | none =>
    have hcs : cs = key ++ '\x7d' :: rest := by
      simpa [Placeholder.written] using h
    rw [hcs]
    simp only [readPlaceholder?, Lists.takeWhile_append_cons hkey isKeyChar_brace,
      Lists.dropWhile_append_cons hkey isKeyChar_brace, hempty]
    rfl
  | some digits =>
    have hcs : cs = key ++ '[' :: ':' :: (digits ++ ']' :: '\x7d' :: rest) := by
      simpa [Placeholder.written] using h
    have hdigits : digits.isEmpty = false := by
      rw [Bool.eq_false_iff, ne_eq, List.isEmpty_iff]
      exact fun he => hkeep (congrArg some he)
    have hall := hdigit digits rfl
    rw [hcs]
    simp only [readPlaceholder?, Lists.takeWhile_append_cons hkey isKeyChar_bracket,
      Lists.dropWhile_append_cons hkey isKeyChar_bracket, hempty,
      Lists.takeWhile_append_cons hall isDecimalDigit_bracket,
      Lists.dropWhile_append_cons hall isDecimalDigit_bracket, hdigits]
    rfl

/-- Reading finds the placeholder that starts at a place, of which there is one at most. -/
theorem readPlaceholder?_eq_some : readPlaceholder? cs = some (p, rest) ↔
    p.IsValid ∧ '$' :: '\x7b' :: cs = p.written ++ rest :=
  ⟨readPlaceholder?_sound, fun h => readPlaceholder?_written h.1 h.2⟩

theorem Placeholder.exists_written (p : Placeholder) (rest : List Char) :
    ∃ cs, p.written ++ rest = '$' :: '\x7b' :: cs :=
  ⟨_, by rw [written]; rfl⟩

/-- Where a text starts with a placeholder, a longer one does. -/
theorem StartsPlaceholder.mono {ds : List Char} (h : StartsPlaceholder cs) (hp : cs <+: ds) :
    StartsPlaceholder ds := by
  obtain ⟨p, hvalid, hstart⟩ := h
  exact ⟨p, hvalid, hstart.trans hp⟩

/-! ### All parts -/

theorem segments_written (hp : p.IsValid) (rest : List Char) :
    segments (p.written ++ rest) = .placeholder p :: segments rest := by
  obtain ⟨cs, hcs⟩ := p.exists_written rest
  have hread := readPlaceholder?_eq_some.mpr ⟨hp, hcs.symm⟩
  rw [hcs, segments]
  split
  next hq =>
    rw [hread] at hq
    cases hq
    rfl
  next hq =>
    rw [hread] at hq
    cases hq

theorem segments_literal {c : Char} (h : ¬ StartsPlaceholder (c :: cs)) :
    segments (c :: cs) = .literal c :: segments cs := by
  rw [segments.eq_def]
  split
  next heq => cases heq
  next tail heq =>
    obtain ⟨rfl, rfl⟩ := List.cons.inj heq
    split
    next q rest hread =>
      obtain ⟨hvalid, hwritten⟩ := readPlaceholder?_eq_some.mp hread
      exact absurd ⟨q, hvalid, rest, hwritten.symm⟩ h
    next => rfl
  next heq =>
    obtain ⟨rfl, rfl⟩ := List.cons.inj heq
    rfl

/-- The parts that a template is taken for are parts of it. -/
theorem splits_segments (cs : List Char) : Splits cs (segments cs) := by
  induction cs using segments.induct with
  | case1 =>
    rw [segments]
    exact .nil
  | case2 cs p rest hread hlength ih =>
    obtain ⟨hvalid, hwritten⟩ := readPlaceholder?_eq_some.mp hread
    rw [hwritten, segments_written hvalid]
    exact .placeholder hvalid ih
  | case3 cs hread ih =>
    have hnone : ¬ StartsPlaceholder ('$' :: '\x7b' :: cs) := by
      rintro ⟨p, hvalid, rest, hwritten⟩
      rw [readPlaceholder?_eq_some.mpr ⟨hvalid, hwritten.symm⟩] at hread
      cases hread
    rw [segments_literal hnone]
    exact .literal hnone ih
  | case4 c cs hno ih =>
    have hnone : ¬ StartsPlaceholder (c :: cs) := by
      rintro ⟨p, -, rest, hwritten⟩
      obtain ⟨tail, htail⟩ := p.exists_written rest
      rw [hwritten] at htail
      obtain ⟨rfl, rfl⟩ := List.cons.inj htail
      exact hno tail rfl rfl
    rw [segments_literal hnone]
    exact .literal hnone ih

/-- There is just one way to split a text. -/
theorem splits_iff : Splits cs parts ↔ parts = segments cs := by
  refine ⟨fun h => ?_, fun h => h ▸ splits_segments cs⟩
  induction h with
  | nil => rw [segments]
  | literal hnone _ ih => rw [segments_literal hnone, ih]
  | placeholder hvalid _ ih => rw [segments_written hvalid, ih]

namespace Splits

/-- Nothing of the text is lost. -/
theorem flatMap_written (h : Splits cs parts) : parts.flatMap Segment.written = cs := by
  induction h with
  | nil => rfl
  | literal _ _ ih => rw [List.flatMap_cons, ih, Segment.written, List.singleton_append]
  | placeholder _ _ ih => rw [List.flatMap_cons, ih, Segment.written]

theorem isValid (h : Splits cs parts) (hp : .placeholder p ∈ parts) : p.IsValid := by
  induction h with
  | nil => cases hp
  | literal _ _ ih =>
    rcases List.mem_cons.mp hp with he | hp
    · cases he
    · exact ih hp
  | placeholder hvalid _ ih =>
    rcases List.mem_cons.mp hp with he | hp
    · cases he
      exact hvalid
    · exact ih hp

/-- The first parts are those of the text that they are written as: what is literal
in the whole text is so without what comes after it. -/
theorem front : ∀ {before after : List Segment} {cs : List Char}, Splits cs (before ++ after) →
    Splits (before.flatMap Segment.written) before
  | [], _, _, _ => .nil
  | .literal c :: before, after, _ :: cs, .literal hnone h => by
    have hcs : cs = before.flatMap Segment.written ++ after.flatMap Segment.written := by
      rw [← List.flatMap_append]
      exact h.flatMap_written.symm
    refine .literal (fun hstart => hnone (hstart.mono ?_)) (Splits.front h)
    rw [hcs]
    exact List.prefix_append (c :: before.flatMap Segment.written) _
  | .placeholder p :: before, _, _, .placeholder hvalid h => .placeholder hvalid (Splits.front h)

/-- So are the last parts. -/
theorem back : ∀ {before after : List Segment} {cs : List Char}, Splits cs (before ++ after) →
    Splits (after.flatMap Segment.written) after
  | [], _, _, h => by
    rw [List.nil_append] at h
    rw [h.flatMap_written]
    exact h
  | .literal _ :: _, _, _, .literal _ h => Splits.back h
  | .placeholder _ :: _, _, _, .placeholder _ h => Splits.back h

end Splits

/-- The text that the parts are written as. -/
def textOf (parts : List Segment) : String := String.ofList (parts.flatMap Segment.written)

namespace Values

variable {template : String}

theorem expandSegment_eq_filled (values : Values) :
    values.expandSegment = Segment.filled values.resolve? := by
  funext part
  cases part with
  | literal c => rfl
  | placeholder p =>
    rw [expandSegment, Segment.filled]
    cases values.resolve? p with
    | none => rfl
    | some value => rfl

/-- A label is made of the parts of its template, each by itself. -/
theorem expand_of_parts (values : Values) (h : Splits template.toList parts) :
    values.expand template = String.ofList (parts.flatMap values.expandSegment) := by
  rw [expand, splits_iff.mp h]

theorem expand_textOf (values : Values) (h : Splits (parts.flatMap Segment.written) parts) :
    values.expand (textOf parts) = String.ofList (parts.flatMap values.expandSegment) := by
  apply expand_of_parts
  rw [textOf, String.toList_ofList]
  exact h

/-- What a part becomes stands between the labels of the texts before and after it. -/
theorem expand_at (values : Values) {before after : List Segment} {part : Segment}
    (h : Splits template.toList (before ++ part :: after)) :
    values.expand template = values.expand (textOf before) ++
      String.ofList (values.expandSegment part) ++ values.expand (textOf after) := by
  have hafter : Splits (after.flatMap Segment.written) after := by
    rw [← List.singleton_append, ← List.append_assoc] at h
    exact h.back
  rw [values.expand_of_parts h, values.expand_textOf h.front, values.expand_textOf hafter,
    List.flatMap_append, List.flatMap_cons, String.ofList_append, String.ofList_append,
    String.append_assoc]

/-- What comes in for a placeholder stands between the labels of the texts before and
after it. -/
theorem expand_around (values : Values) {before after : List Segment} {value : String}
    (h : Splits template.toList (before ++ .placeholder p :: after))
    (hv : values.resolve? p = some value) :
    values.expand template = values.expand (textOf before) ++ value ++
      values.expand (textOf after) := by
  have hvalue : values.expandSegment (.placeholder p) = value.toList := by
    rw [expandSegment, hv]
  rw [values.expand_at h, hvalue, String.ofList_toList]

/-- A template of which no placeholder stands for anything is its own label. -/
theorem expand_of_none (values : Values) (h : Splits template.toList parts)
    (hnone : ∀ p, .placeholder p ∈ parts → values.resolve? p = none) :
    values.expand template = template := by
  have hsame : parts.flatMap values.expandSegment = parts.flatMap Segment.written := by
    refine List.flatMap_congr fun part hpart => ?_
    cases part with
    | literal c => rfl
    | placeholder p => rw [expandSegment, hnone p hpart, Segment.written]
  rw [values.expand_of_parts h, hsame, h.flatMap_written, String.ofList_toList]

/-- Every template is split in just one way into characters and the placeholders that
start from left to right. Its label has the same characters, and for each placeholder
what it stands for, or the placeholder as it is written if it stands for nothing. What
comes in is not read again, whatever it holds: it stands between the labels of the text
before it and of the text after it. -/
theorem expand_of_splits (values : Values) (template : String) :
    ∃ parts, (∀ others, Splits template.toList others ↔ others = parts) ∧
      textOf parts = template ∧
      values.expand template = String.ofList (parts.flatMap (Segment.filled values.resolve?)) ∧
      (∀ before p after value, parts = before ++ .placeholder p :: after →
        values.resolve? p = some value → values.expand template =
          values.expand (textOf before) ++ value ++ values.expand (textOf after)) ∧
      ((∀ p, .placeholder p ∈ parts → values.resolve? p = none) →
        values.expand template = template) := by
  have hsplits := splits_segments template.toList
  refine ⟨segments template.toList, fun _ => splits_iff, ?_, ?_, ?_, values.expand_of_none hsplits⟩
  · rw [textOf, hsplits.flatMap_written, String.ofList_toList]
  · rw [values.expand_of_parts hsplits, values.expandSegment_eq_filled]
  · intro before p after value hparts hv
    rw [hparts] at hsplits
    exact values.expand_around hsplits hv

/-- Values with a variable that holds what would be a placeholder in a template. -/
def holdsPlaceholder : Values := ⟨7, ⟨[⟨"A", "$\x7bCOUNT\x7d", false⟩]⟩, ⟨[]⟩⟩

/-- A key swallows the start of another placeholder, and the value of the variable is not
read again. -/
theorem expand_of_splits_nested :
    holdsPlaceholder.expand "$\x7ba$\x7bA\x7d-$\x7benv:A\x7d$\x7bCOUNT\x7d$\x7b" =
      holdsPlaceholder.expand "$\x7ba$\x7bA\x7d-" ++ "$\x7bCOUNT\x7d" ++
        holdsPlaceholder.expand "$\x7bCOUNT\x7d$\x7b" ∧
    holdsPlaceholder.expand "$\x7ba$\x7bA\x7d-" = "$\x7ba$\x7bA\x7d-" ∧
    holdsPlaceholder.expand "$\x7bCOUNT\x7d$\x7b" = "7$\x7b" := by
  obtain ⟨parts, hsplits, -, -, haround, -⟩ := holdsPlaceholder.expand_of_splits
    "$\x7ba$\x7bA\x7d-$\x7benv:A\x7d$\x7bCOUNT\x7d$\x7b"
  have hread : segments "$\x7ba$\x7bA\x7d-$\x7benv:A\x7d$\x7bCOUNT\x7d$\x7b".toList =
      [.placeholder ⟨"a$\x7bA".toList, none⟩, .literal '-'] ++
        .placeholder ⟨"env:A".toList, none⟩ ::
          [.placeholder ⟨"COUNT".toList, none⟩, .literal '$', .literal '\x7b'] := by
    decide +kernel
  have hparts := ((hsplits _).mp (splits_segments _)).symm.trans hread
  have hvalue : holdsPlaceholder.resolve? ⟨"env:A".toList, none⟩ = some "$\x7bCOUNT\x7d" := by
    decide +kernel
  have hbefore : textOf [.placeholder ⟨"a$\x7bA".toList, none⟩, .literal '-'] =
      "$\x7ba$\x7bA\x7d-" := by
    decide +kernel
  have hafter : textOf [.placeholder ⟨"COUNT".toList, none⟩, .literal '$', .literal '\x7b'] =
      "$\x7bCOUNT\x7d$\x7b" := by
    decide +kernel
  refine ⟨?_, by decide +kernel, by decide +kernel⟩
  rw [haround _ _ _ _ hparts hvalue, hbefore, hafter]

end Values
end Label
end StageRuns
