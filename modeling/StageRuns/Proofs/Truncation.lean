/-
# Placeholders with a number of characters to keep

A placeholder may end in a number of characters to keep. If the number is read, and the
key asks for no variable, the label has the first characters of the latest revision of
the material, or the placeholder as it is (`Label.Values.resolve?_of_isCut`). The number
is read if it is written in ASCII digits and has at most 64 bits
(`Label.Placeholder.count?_eq_some`, `Label.Placeholder.count?_eq_none`).

A number that is not read is dropped, so that the counter or the whole revision comes in.
For a material this does no harm where the number is so great that no text has as many
characters. A variable comes in whole, whatever the number is. So the condition is exact
(`Label.truncates_iff`): a counter, a variable or a longer revision comes in for some
values exactly if the placeholder does not satisfy `Label.Placeholder.IsCut`.

Key definitions: `Text.digitValue`, `Text.decimalValue`, `Label.Placeholder.IsCut`,
`Label.Values.Truncates`, `Revisions.Fit`.
Key theorems: `Text.natOfDigits?_of_digits`, `Label.Values.resolve?_of_isCut`,
`Label.Values.truncates_of_isCut`, `Label.Placeholder.isCut_of_truncates`,
`Label.truncates_iff`.
-/
import StageRuns.Proofs.Secrets

namespace StageRuns

/-! ### Numbers in the digits of any script -/

namespace Text

/-- The value of a digit. The ten digits of a script stand in their order; a range of more
digits has ten of each kind. -/
def digitValue (c : Char) : Nat :=
  match decimalDigitRanges.find? fun range => range.1 ≤ c.toNat && c.toNat ≤ range.2 with
  | some range => (c.toNat - range.1) % 10
  | none => 0

/-- The decimal number that digits write. -/
def decimalValue (digits : List Char) : Nat :=
  digits.foldl (fun n d => n * 10 + digitValue d) 0

variable {cs : List Char}

theorem digitValue_of_isDigit {c : Char} (h : c.isDigit = true) : digitValue c = c.toNat - 48 := by
  have hc : 48 ≤ c.toNat ∧ c.toNat ≤ 57 := Char.isDigit_iff_toNat.mp h
  have hfind : decimalDigitRanges.find? (fun range => range.1 ≤ c.toNat && c.toNat ≤ range.2) =
      some (48, 57) := by
    apply List.find?_cons_of_pos
    simp [hc]
  rw [digitValue, hfind]
  exact Nat.mod_eq_of_lt (by omega)

theorem readDigits_eq_foldl : ∀ {cs : List Char} (start : Nat), (∀ c ∈ cs, c.isDigit = true) →
    readDigits start cs = some (cs.foldl (fun n d => n * 10 + digitValue d) start)
  | [], _, _ => rfl
  | c :: cs, start, h => by
    obtain ⟨hc, hcs⟩ := List.forall_mem_cons.mp h
    rw [readDigits, if_pos hc, readDigits_eq_foldl _ hcs, List.foldl_cons, digitValue_of_isDigit hc]

/-- ASCII digits are read as the number that they write. -/
theorem natOfDigits?_of_digits (hne : cs ≠ []) (h : ∀ c ∈ cs, c.isDigit = true) :
    natOfDigits? cs = some (decimalValue cs) := by
  obtain ⟨c, cs, rfl⟩ := List.exists_cons_of_ne_nil hne
  exact readDigits_eq_foldl 0 h

end Text

/-- The latest revisions are texts that there can be: a text has fewer than `2 ^ 63` bytes. -/
def Revisions.Fit (rs : Revisions) : Prop :=
  ∀ r ∈ rs.entries, ∀ revision, r.revision? = some revision → revision.length < 0x8000000000000000

namespace Label

variable {p : Placeholder} {digits : List Char} {values : Values}

/-! ### The number of characters to keep -/

/-- The digits are read as a number: they are ASCII digits of a number of 64 bits. -/
def IsCount (digits : List Char) : Prop :=
  (∀ d ∈ digits, d.isDigit = true) ∧ Text.decimalValue digits < 0x10000000000000000

namespace Placeholder

/-- The placeholder stands for a start of a revision, if it stands for anything: it asks
for no variable, and its number is read, or is one that no text of a material is longer
than. -/
structure IsCut (p : Placeholder) (digits : List Char) : Prop where
  noVariable : ∀ name, ¬ p.AsksFor name
  limited : IsCount digits ∨
    Text.sameName p.name "COUNT" = false ∧ 0x7fffffffffffffff ≤ Text.decimalValue digits

theorem count?_eq_some (hp : p.IsValid) (hkeep : p.keep = some digits) (h : IsCount digits) :
    p.count? = some (Text.decimalValue digits) := by
  have hne : digits ≠ [] := fun hnil => hp.keep_ne_nil (hnil ▸ hkeep)
  rw [count?, hkeep, Option.bind_some, Text.natOfDigits?_of_digits hne h.1]
  simp [h.2]

theorem count?_eq_none (hp : p.IsValid) (hkeep : p.keep = some digits) (h : ¬ IsCount digits) :
    p.count? = none := by
  have hne : digits ≠ [] := fun hnil => hp.keep_ne_nil (hnil ▸ hkeep)
  rw [count?, hkeep, Option.bind_some]
  by_cases hd : ∀ d ∈ digits, d.isDigit = true
  · have hlarge : ¬ Text.decimalValue digits < 0x10000000000000000 := fun hlt => h ⟨hd, hlt⟩
    rw [Text.natOfDigits?_of_digits hne hd]
    simpa using hlarge
  · rw [Text.natOfDigits?_eq_none hd]
    rfl

theorem head?_written (p : Placeholder) : p.written.head? = some '$' := rfl

end Placeholder

namespace Values

/-- What comes in for the placeholder is the placeholder as it is, or a start of the
latest revision of its material with no more characters than the number that is written.
Neither the counter nor a variable has a part in it. -/
structure Truncates (values : Values) (p : Placeholder) (digits : List Char) : Prop where
  kept : values.expandSegment (.placeholder p) = p.written ∨
    ∃ r revision, values.revisions.byMaterial? p.name = some r ∧ r.revision? = some revision ∧
      values.expandSegment (.placeholder p) <+: revision.toList ∧
        (values.expandSegment (.placeholder p)).length ≤ Text.decimalValue digits
  alone : ∀ counter environment,
    { values with counter, environment }.expandSegment (.placeholder p) =
      values.expandSegment (.placeholder p)

/-! ### Where a number of characters is kept -/

/-- Without a variable, a name stands for the counter or for a revision. -/
theorem resolve?_of_noVariable (values : Values) (h : ∀ name, ¬ p.AsksFor name) :
    values.resolve? p = if Text.sameName p.name "COUNT" && p.count?.isNone then
      some (String.ofList (Text.digitsOfNat values.counter))
    else values.revision? p.name p.count? := by
  have hnone : variableName? p.name.toList = none := by
    rw [Option.eq_none_iff_forall_ne_some]
    exact fun name hname => h name (asksFor_of_variableName? hname)
  rw [resolve?, lookup?, hnone]

/-- A number that no revision is longer than keeps all of it. -/
theorem revision?_of_fit (hfit : values.revisions.Fit) {n : Nat} (h : 0x7fffffffffffffff ≤ n)
    (name : String) : values.revision? name (some n) = values.revision? name none := by
  unfold revision?
  cases hr : values.revisions.byMaterial? name with
  | none => rfl
  | some r =>
    show r.shortRevision? n = r.revision?
    rw [MaterialRevision.shortRevision?]
    cases hrevision : r.revision? with
    | none => rfl
    | some revision =>
      have hlength := hfit r (List.mem_of_find?_eq_some hr) revision hrevision
      have hall : revision.toList.take n = revision.toList := by
        apply List.take_of_length_le
        rw [String.length_toList]
        omega
      rw [Option.map_some, hall, String.ofList_toList]

/-- The placeholder stands for the first characters of a revision, as many as its number
says. -/
theorem resolve?_of_isCut (values : Values) (hp : p.IsValid) (hkeep : p.keep = some digits)
    (h : p.IsCut digits) (hfit : values.revisions.Fit) :
    values.resolve? p = values.revision? p.name (some (Text.decimalValue digits)) := by
  rw [values.resolve?_of_noVariable h.noVariable]
  by_cases hcount : IsCount digits
  · rw [p.count?_eq_some hp hkeep hcount, Option.isNone_some, Bool.and_false,
      if_neg Bool.false_ne_true]
  · obtain ⟨hname, hlarge⟩ := h.limited.resolve_left hcount
    rw [p.count?_eq_none hp hkeep hcount, hname, Bool.false_and, if_neg Bool.false_ne_true,
      revision?_of_fit hfit hlarge]

theorem truncates_of_isCut (hp : p.IsValid) (hkeep : p.keep = some digits) (h : p.IsCut digits)
    (hfit : values.revisions.Fit) : values.Truncates p digits where
  kept := by
    have hresolve := values.resolve?_of_isCut hp hkeep h hfit
    unfold revision? at hresolve
    cases hr : values.revisions.byMaterial? p.name with
    | none =>
      left
      rw [expandSegment, hresolve, hr]
    | some r =>
      cases hrevision : r.revision? with
      | none =>
        left
        rw [expandSegment, hresolve, hr]
        simp [MaterialRevision.shortRevision?, hrevision]
      | some revision =>
        have hpart : values.expandSegment (.placeholder p) =
            revision.toList.take (Text.decimalValue digits) := by
          rw [expandSegment, hresolve, hr]
          simp [MaterialRevision.shortRevision?, hrevision]
        refine .inr ⟨r, revision, rfl, hrevision, ?_, ?_⟩
        · rw [hpart]
          exact List.take_prefix _ _
        · rw [hpart]
          exact List.length_take_le _ _
  alone counter environment := by
    let others : Values := { values with counter, environment }
    have hothers := others.resolve?_of_isCut hp hkeep h hfit
    rw [expandSegment, expandSegment, hothers, values.resolve?_of_isCut hp hkeep h hfit]
    rfl

/-! ### Where it is not -/

/-- Without revisions, the placeholder stays as it is. -/
theorem Truncates.eq_written (h : values.Truncates p digits) (hnone : values.revisions = ⟨[]⟩) :
    values.expandSegment (.placeholder p) = p.written := by
  rcases h.kept with hsame | ⟨r, _, hr, -⟩
  · exact hsame
  · rw [hnone] at hr
    cases hr

end Values

/-- A revision of so many characters. -/
def revisionOfLength (name : String) (length : Nat) : MaterialRevision where
  material := { name, kind := .git }
  modifications := [{ revision := String.ofList (List.replicate length 'a'), time := ⟨0, 0⟩ }]

namespace Placeholder

/-- The placeholder asks for no variable: a variable would come in whole. -/
theorem noVariable_of_truncates
    (h : ∀ values : Values, values.revisions.Fit → values.Truncates p digits) (name : String) :
    ¬ p.AsksFor name := by
  intro hasks
  let empty : Values := ⟨0, ⟨[⟨name, "", false⟩]⟩, ⟨[]⟩⟩
  have hkept := (h empty nofun).eq_written rfl
  have hfirst : empty.environment.first? name = some ⟨name, "", false⟩ := by
    simp [empty, Variables.first?, Variables.named]
  have hempty : empty.expandSegment (.placeholder p) = [] :=
    Values.expandSegment_of_first? hasks hfirst
  have hhead := p.head?_written
  rw [← hkept, hempty] at hhead
  cases hhead

/-- If its number is not read, the placeholder does not stand for the counter: that would
come in. -/
theorem not_count_of_truncates (hp : p.IsValid) (hkeep : p.keep = some digits)
    (hno : ∀ name, ¬ p.AsksFor name)
    (h : ∀ values : Values, values.revisions.Fit → values.Truncates p digits)
    (hcount : ¬ IsCount digits) : Text.sameName p.name "COUNT" = false := by
  rw [Bool.eq_false_iff]
  intro hname
  have hkept := (h ⟨0, ⟨[]⟩, ⟨[]⟩⟩ nofun).eq_written rfl
  have hresolve : Values.resolve? ⟨0, ⟨[]⟩, ⟨[]⟩⟩ p = some "0" := by
    rw [Values.resolve?_of_noVariable _ hno, p.count?_eq_none hp hkeep hcount, hname]
    rfl
  have hhead := p.head?_written
  rw [← hkept, Values.expandSegment, hresolve] at hhead
  simp at hhead

/-- If its number is not read, it is one that no revision is longer than: a longer one
would come in whole. -/
theorem large_of_truncates (hp : p.IsValid) (hkeep : p.keep = some digits)
    (hno : ∀ name, ¬ p.AsksFor name)
    (h : ∀ values : Values, values.revisions.Fit → values.Truncates p digits)
    (hcount : ¬ IsCount digits) (hname : Text.sameName p.name "COUNT" = false) :
    0x7fffffffffffffff ≤ Text.decimalValue digits := by
  by_contra hsmall
  let values : Values :=
    ⟨0, ⟨[]⟩, ⟨[revisionOfLength p.name (Text.decimalValue digits + 1)]⟩⟩
  have hmaterial : values.revisions.byMaterial? p.name =
      some (revisionOfLength p.name (Text.decimalValue digits + 1)) :=
    List.find?_cons_of_pos (Text.sameName_self p.name)
  have hfit : values.revisions.Fit := by
    intro r hr revision hrevision
    obtain rfl := List.mem_singleton.mp hr
    cases hrevision
    rw [String.length_ofList, List.length_replicate]
    omega
  have hpart : values.expandSegment (.placeholder p) =
      List.replicate (Text.decimalValue digits + 1) 'a' := by
    have hresolve : values.resolve? p =
        some (String.ofList (List.replicate (Text.decimalValue digits + 1) 'a')) := by
      rw [values.resolve?_of_noVariable hno, p.count?_eq_none hp hkeep hcount, hname,
        Bool.false_and, if_neg Bool.false_ne_true]
      unfold Values.revision?
      rw [hmaterial]
      rfl
    rw [Values.expandSegment, hresolve]
    exact String.toList_ofList
  rcases (h values hfit).kept with hsame | ⟨_, _, -, -, -, hlength⟩
  · have hhead := p.head?_written
    rw [← hsame, hpart, List.replicate_succ] at hhead
    simp at hhead
  · rw [hpart, List.length_replicate] at hlength
    omega

theorem isCut_of_truncates (hp : p.IsValid) (hkeep : p.keep = some digits)
    (h : ∀ values : Values, values.revisions.Fit → values.Truncates p digits) :
    p.IsCut digits := by
  have hno := noVariable_of_truncates h
  refine ⟨hno, ?_⟩
  by_cases hcount : IsCount digits
  · exact .inl hcount
  · have hname := not_count_of_truncates hp hkeep hno h hcount
    exact .inr ⟨hname, large_of_truncates hp hkeep hno h hcount hname⟩

end Placeholder

/-- In every template, what comes in for a placeholder with a number of characters to keep
stands between the labels of the texts before and after it. Over all values, it is the
placeholder as it is or a start of a revision that is not longer than the number says,
exactly if the placeholder asks for no variable and its number is read, or is too great
to matter. -/
theorem truncates_iff {template : String} {before after : List Segment} {p : Placeholder}
    {digits : List Char} (h : segments template.toList = before ++ .placeholder p :: after)
    (hkeep : p.keep = some digits) :
    (∀ values : Values, values.expand template = values.expand (textOf before) ++
      String.ofList (values.expandSegment (.placeholder p)) ++ values.expand (textOf after)) ∧
    ((∀ values : Values, values.revisions.Fit → values.Truncates p digits) ↔ p.IsCut digits) := by
  have hsplits := splits_segments template.toList
  rw [h] at hsplits
  have hp : p.IsValid := hsplits.isValid (List.mem_append_right _ List.mem_cons_self)
  exact ⟨fun values => values.expand_at hsplits, Placeholder.isCut_of_truncates hp hkeep,
    fun hcut values hfit => Values.truncates_of_isCut hp hkeep hcut hfit⟩

/-- A material with one revision. -/
def oneRevision : Values :=
  ⟨7, ⟨[⟨"X", "value", false⟩]⟩,
    ⟨[{ material := { name := "git", kind := .git }
        modifications := [{ revision := "a1b2c3d4", time := ⟨0, 0⟩ }] }]⟩⟩

/-- The first three characters of the revision stand behind the letter. -/
theorem truncates_iff_oneRevision :
    oneRevision.expand "v$\x7b Git [:3]\x7d" = "va1b" ∧
    oneRevision.Truncates ⟨" Git ".toList, some ['3']⟩ ['3'] := by
  have hread : segments "v$\x7b Git [:3]\x7d".toList =
      [.literal 'v'] ++ .placeholder ⟨" Git ".toList, some ['3']⟩ :: [] := by
    decide +kernel
  obtain ⟨hlabel, hiff⟩ := truncates_iff hread rfl
  have hcut : Placeholder.IsCut ⟨" Git ".toList, some ['3']⟩ ['3'] := by
    refine ⟨fun name hasks => ?_, .inl ⟨List.forall_mem_singleton.mpr rfl, by decide⟩⟩
    have hname := variableName?_of_asksFor hasks
    have hnone : Values.variableName?
        (Placeholder.name ⟨" Git ".toList, some ['3']⟩).toList = none := by
      decide +kernel
    rw [hnone] at hname
    cases hname
  have hfit : oneRevision.revisions.Fit := by
    intro r hr revision hrevision
    obtain rfl := List.mem_singleton.mp hr
    cases hrevision
    decide
  have hbefore : oneRevision.expand (textOf [.literal 'v']) = "v" := by decide +kernel
  have hpart : String.ofList (oneRevision.expandSegment
      (.placeholder ⟨" Git ".toList, some ['3']⟩)) = "a1b" := by
    decide +kernel
  have hafter : oneRevision.expand (textOf []) = "" := by decide +kernel
  refine ⟨?_, hiff.mpr hcut oneRevision hfit⟩
  rw [hlabel oneRevision, hbefore, hpart, hafter]
  rfl

/-- A number that is not read is dropped, so that the counter or the whole revision comes
in; a variable comes in whole. -/
theorem not_truncates_dropped :
    oneRevision.expand "$\x7bCOUNT[:99999999999999999999]\x7d" = "7" ∧
    oneRevision.expand "$\x7bCOUNT[:٣]\x7d" = "7" ∧
    oneRevision.expand "$\x7bgit[:٣]\x7d" = "a1b2c3d4" ∧
    oneRevision.expand "$\x7benv:X[:3]\x7d" = "value" ∧
    ¬ ∀ (template : String) (values : Values) (before after : List Segment) (p : Placeholder)
        (digits : List Char), segments template.toList = before ++ .placeholder p :: after →
      p.keep = some digits → values.revisions.Fit → values.Truncates p digits := by
  refine ⟨by decide +kernel, by decide +kernel, by decide +kernel, by decide +kernel, fun h => ?_⟩
  have hread : segments "$\x7bCOUNT[:٣]\x7d".toList =
      [] ++ .placeholder ⟨"COUNT".toList, some ['٣']⟩ :: [] := by
    decide +kernel
  have hkept := (h _ ⟨7, ⟨[]⟩, ⟨[]⟩⟩ _ _ _ _ hread rfl nofun).eq_written rfl
  exact absurd hkept (by decide +kernel)

end Label
end StageRuns
