/-
# Secrets in labels

Two lists of variables are the same openly if they differ in the values of secure
variables only (`Variables.SameOpenly`); nothing that shows variables as
`Variable.shown` does can tell them apart (`Variables.sameOpenly_iff`). A label does
not show them so: a placeholder stands for the value itself, secure or not. Hence
a label tells such lists apart exactly if a placeholder of its template asks for a
name whose first variable is secure (`Label.hidesSecrets_iff`).

If none does, all placeholders stand for the same in both lists. If one does, let
every secure value be longer by a character: no part of the label gets shorter, and
the part of this placeholder gets longer, so that the label is another one.

Key definitions: `Variables.SameOpenly`, `Variables.withSecrets`,
`Label.ShowsSecret`.
Key theorems: `Variables.sameOpenly_iff`, `Variables.SameOpenly.get?_eq`,
`Label.Values.expand_of_sameOpenly`, `Label.Values.length_expand_lt`,
`Label.hidesSecrets_iff`.
-/
import StageRuns.Proofs.PipelineRun

namespace StageRuns

/-! ### Lists that are the same openly -/

/-- The variables differ at most in a secure value. -/
structure Variable.SameOpenly (v w : Variable) : Prop where
  name : v.name = w.name
  secure : v.secure = w.secure
  value : v.secure = false → v.value = w.value

/-- The variable with another value if it is secure. -/
def Variable.withSecret (f : String → String) (v : Variable) : Variable :=
  if v.secure then { v with value := f v.value } else v

namespace Variable

theorem sameOpenly_iff {v w : Variable} :
    v.SameOpenly w ↔ v.name = w.name ∧ v.secure = w.secure ∧ v.shown = w.shown := by
  refine ⟨fun h => ⟨h.name, h.secure, ?_⟩, fun ⟨hname, hsecure, hshown⟩ =>
    ⟨hname, hsecure, fun hopen => ?_⟩⟩
  · rw [shown, shown, ← h.secure]
    split
    next => rfl
    next hopen => exact h.value (Bool.eq_false_iff.mpr hopen)
  · simpa [shown, ← hsecure, hopen] using hshown

theorem name_withSecret (f : String → String) (v : Variable) : (v.withSecret f).name = v.name := by
  unfold withSecret
  split <;> rfl

theorem sameOpenly_withSecret (f : String → String) (v : Variable) :
    v.SameOpenly (v.withSecret f) := by
  unfold withSecret
  split
  next hsecure => exact ⟨rfl, rfl, fun hopen => by rw [hsecure] at hopen; cases hopen⟩
  next => exact ⟨rfl, rfl, fun _ => rfl⟩

end Variable

namespace Variables

/-- The lists have the same names in the same places, the same of them secure, and
the same values that are not secure. -/
def SameOpenly (vs ws : Variables) : Prop :=
  List.Forall₂ Variable.SameOpenly vs.entries ws.entries

/-- The list with other secure values. -/
def withSecrets (f : String → String) (vs : Variables) : Variables :=
  ⟨vs.entries.map (·.withSecret f)⟩

variable {vs ws : Variables}

/-- Lists are the same openly if their variables are shown in the same way. -/
theorem sameOpenly_iff : vs.SameOpenly ws ↔
    vs.entries.map (fun v => (v.name, v.secure, v.shown)) =
      ws.entries.map fun w => (w.name, w.secure, w.shown) := by
  have hiff : ∀ v w : Variable, v.SameOpenly w ↔
      (v.name, v.secure, v.shown) = (w.name, w.secure, w.shown) := fun v w => by
    rw [Variable.sameOpenly_iff, Prod.mk.injEq, Prod.mk.injEq]
  rw [← List.forall₂_eq_eq_eq, List.forall₂_map_left_iff, List.forall₂_map_right_iff, SameOpenly]
  exact ⟨fun h => h.imp fun v w => (hiff v w).mp, fun h => h.imp fun v w => (hiff v w).mpr⟩

instance : Decidable (vs.SameOpenly ws) := decidable_of_iff _ sameOpenly_iff.symm

theorem sameOpenly_withSecrets (f : String → String) (vs : Variables) :
    vs.SameOpenly (vs.withSecrets f) := by
  rw [SameOpenly, withSecrets, List.forall₂_map_right_iff, List.forall₂_same]
  exact fun v _ => v.sameOpenly_withSecret f

/-- The variables of a name are the same openly. -/
theorem SameOpenly.named (h : vs.SameOpenly ws) (name : String) :
    List.Forall₂ Variable.SameOpenly (vs.named name) (ws.named name) :=
  List.rel_filter (fun v w hvw => show (v.name == name) = true ↔ (w.name == name) = true by
    rw [hvw.name]) h

/-- Where the first variable of a name is not secure, both lists have the same value. -/
theorem SameOpenly.get?_eq (h : vs.SameOpenly ws) {name : String}
    (hopen : ∀ v, vs.first? name = some v → v.secure = false) :
    ws.get? name = vs.get? name := by
  have hnamed := h.named name
  rw [first?] at hopen
  rw [get?_eq_first?, get?_eq_first?, first?, first?]
  cases hv : vs.named name with
  | nil =>
    rw [hv, List.forall₂_nil_left_iff] at hnamed
    rw [hnamed]
  | cons v _ =>
    rw [hv, List.forall₂_cons_left_iff] at hnamed
    obtain ⟨w, _, hvw, -, hw⟩ := hnamed
    rw [hw]
    rw [hv] at hopen
    exact congrArg some (hvw.value (hopen v rfl)).symm

theorem first?_withSecrets (f : String → String) (vs : Variables) (name : String) :
    (vs.withSecrets f).first? name = (vs.first? name).map (·.withSecret f) := by
  rw [first?, first?, named, named, withSecrets, List.filter_map, List.head?_map]
  simp only [Function.comp_def, Variable.name_withSecret]

end Variables

/-! ### Labels -/

namespace Label

/-- A placeholder of the template asks for a name whose first variable is secure. -/
def ShowsSecret (template : String) (vs : Variables) : Prop :=
  ∃ (p : Placeholder) (name : String) (v : Variable),
    .placeholder p ∈ segments template.toList ∧ p.AsksFor name ∧
      vs.first? name = some v ∧ v.secure = true

variable {p : Placeholder} {name template : String} {others : Variables}

theorem asksFor_of_variableName? (h : Values.variableName? p.name.toList = some name) :
    p.AsksFor name := by
  unfold Values.variableName? at h
  split at h
  next rest hkey =>
    cases h
    refine .inl (String.toList_inj.mp ?_)
    simp [hkey]
  next rest hkey =>
    cases h
    refine .inr (String.toList_inj.mp ?_)
    simp [hkey]
  next => cases h

namespace Values

/-- A placeholder that asks for no variable stands for the same whatever the variables
are. -/
theorem resolve?_of_not_asksFor (values : Values) (others : Variables)
    (h : ∀ name, ¬ p.AsksFor name) :
    { values with environment := others }.resolve? p = values.resolve? p := by
  have hnone : variableName? p.name.toList = none := by
    rw [Option.eq_none_iff_forall_ne_some]
    exact fun name hname => h name (asksFor_of_variableName? hname)
  rw [resolve?, resolve?, lookup?, lookup?, hnone]
  rfl

/-- If the placeholder asks for no secure variable, it stands for the same in a list that
is the same openly. -/
theorem expandSegment_of_sameOpenly (values : Values) (h : values.environment.SameOpenly others)
    (hopen : ∀ name v, p.AsksFor name → values.environment.first? name = some v →
      v.secure = false) :
    { values with environment := others }.expandSegment (.placeholder p) =
      values.expandSegment (.placeholder p) := by
  have hresolve : { values with environment := others }.resolve? p = values.resolve? p := by
    by_cases hasks : ∃ name, p.AsksFor name
    · obtain ⟨name, hname⟩ := hasks
      rw [resolve?_of_asksFor _ hname, resolve?_of_asksFor _ hname]
      exact h.get?_eq fun v hv => hopen name v hname hv
    · exact values.resolve?_of_not_asksFor others (not_exists.mp hasks)
  rw [expandSegment, expandSegment, hresolve]

/-- If the template asks for no secure variable, the label is the same over a list that
is the same openly. -/
theorem expand_of_sameOpenly (values : Values) (h : values.environment.SameOpenly others)
    (hno : ¬ ShowsSecret template values.environment) :
    { values with environment := others }.expand template = values.expand template := by
  rw [expand, expand]
  refine congrArg String.ofList (List.flatMap_congr fun segment hs => ?_)
  cases segment with
  | literal c => rfl
  | placeholder p =>
    apply values.expandSegment_of_sameOpenly h
    intro name v hname hv
    rw [Bool.eq_false_iff]
    exact fun hsecure => hno ⟨p, name, v, hs, hname, hv, hsecure⟩

theorem expandSegment_of_first? {values : Values} {v : Variable} (h : p.AsksFor name)
    (hv : values.environment.first? name = some v) :
    values.expandSegment (.placeholder p) = v.value.toList := by
  rw [expandSegment, values.resolve?_of_asksFor h, Variables.get?_eq_first?, hv]
  rfl

/-- The values with other secure values of variables. -/
def withSecrets (f : String → String) (values : Values) : Values :=
  { values with environment := values.environment.withSecrets f }

section Longer

variable {f : String → String} (hf : ∀ s, s.length < (f s).length) (values : Values)
include hf

/-- A placeholder that asks for a secure variable gets longer where secure values do. -/
theorem length_expandSegment_lt {v : Variable} (h : p.AsksFor name)
    (hv : values.environment.first? name = some v) (hsecure : v.secure = true) :
    (values.expandSegment (.placeholder p)).length <
      ((values.withSecrets f).expandSegment (.placeholder p)).length := by
  have hv' : (values.withSecrets f).environment.first? name = some (v.withSecret f) := by
    rw [withSecrets, Variables.first?_withSecrets, hv, Option.map_some]
  rw [expandSegment_of_first? h hv, expandSegment_of_first? h hv', Variable.withSecret,
    if_pos hsecure, String.length_toList, String.length_toList]
  exact hf v.value

/-- No part of a label gets shorter where secure values get longer. -/
theorem length_expandSegment_le (segment : Segment) : (values.expandSegment segment).length ≤
    ((values.withSecrets f).expandSegment segment).length := by
  cases segment with
  | literal c => exact Nat.le_refl 1
  | placeholder p =>
    by_cases hasks : ∃ name v, p.AsksFor name ∧ values.environment.first? name = some v ∧
        v.secure = true
    · obtain ⟨name, v, hname, hv, hsecure⟩ := hasks
      exact Nat.le_of_lt (values.length_expandSegment_lt hf hname hv hsecure)
    · apply Nat.le_of_eq
      rw [withSecrets, values.expandSegment_of_sameOpenly
        (values.environment.sameOpenly_withSecrets f)]
      intro name v hname hv
      rw [Bool.eq_false_iff]
      exact fun hsecure => hasks ⟨name, v, hname, hv, hsecure⟩

/-- If the template asks for a secure variable, the label gets longer where secure values
do. -/
theorem length_expand_lt (hshows : ShowsSecret template values.environment) :
    (values.expand template).length < ((values.withSecrets f).expand template).length := by
  obtain ⟨p, name, v, hp, hname, hv, hsecure⟩ := hshows
  have hlonger := values.length_expandSegment_lt hf hname hv hsecure
  rw [expand, expand, String.length_ofList, String.length_ofList]
  exact Lists.length_flatMap_lt (fun segment _ => values.length_expandSegment_le hf segment)
    ⟨_, hp, hlonger⟩

end Longer

/-- The label is the same over all lists that are the same openly exactly if no secure
variable is asked for. -/
theorem expand_sameOpenly_iff (values : Values) :
    (∀ others, values.environment.SameOpenly others →
      { values with environment := others }.expand template = values.expand template) ↔
        ¬ ShowsSecret template values.environment := by
  refine ⟨fun hsame hshows => ?_, fun hno others h => values.expand_of_sameOpenly h hno⟩
  have hlonger : (values.expand template).length <
      ((values.withSecrets (·.push '*')).expand template).length :=
    values.length_expand_lt (by simp) hshows
  have heq : (values.withSecrets (·.push '*')).expand template = values.expand template :=
    hsame _ (values.environment.sameOpenly_withSecrets _)
  rw [heq] at hlonger
  exact Nat.lt_irrefl _ hlonger

end Values

/-- A label is kept from secure values, so that it is the same over all lists that are
the same openly, exactly if no placeholder of its template asks for a name whose first
variable is secure. The label that a run gets with its counter is such a label. -/
theorem hidesSecrets_iff (template : String) (counter : Nat) (revisions : Revisions)
    (vs : Variables) (run : Pipeline) :
    ((∀ others, vs.SameOpenly others →
        Values.expand ⟨counter, others, revisions⟩ template =
          Values.expand ⟨counter, vs, revisions⟩ template) ↔ ¬ ShowsSecret template vs) ∧
    ((∀ others, run.environment.SameOpenly others →
        ({ run with environment := others }.withCounter counter).label =
          (run.withCounter counter).label) ↔
      ¬ ShowsSecret run.labelTemplate run.environment) := by
  have hrun : (∀ others, run.environment.SameOpenly others →
      ({ run with environment := others }.withCounter counter).label =
        (run.withCounter counter).label) ↔
      ∀ others, run.environment.SameOpenly others →
        { run.labelValues counter with environment := others }.expand run.labelTemplate =
          (run.labelValues counter).expand run.labelTemplate :=
    forall₂_congr fun _ _ => Option.some_inj
  exact ⟨Values.expand_sameOpenly_iff ⟨counter, vs, revisions⟩,
    hrun.trans (run.labelValues counter).expand_sameOpenly_iff⟩

/-- A list of one secure variable. -/
def secretToken (value : String) : Variables := ⟨[⟨"TOKEN", value, true⟩]⟩

/-- The secure value is the label, so that two lists that are the same openly have
different labels. -/
theorem shows_secretToken :
    (secretToken "s3cret").SameOpenly (secretToken "hunter2") ∧
    Values.expand ⟨1, secretToken "s3cret", ⟨[]⟩⟩ "$\x7benv:TOKEN\x7d" = "s3cret" ∧
    Values.expand ⟨1, secretToken "hunter2", ⟨[]⟩⟩ "$\x7benv:TOKEN\x7d" = "hunter2" ∧
    ¬ ∀ template counter revisions (vs others : Variables), vs.SameOpenly others →
      Values.expand ⟨counter, others, revisions⟩ template =
        Values.expand ⟨counter, vs, revisions⟩ template := by
  have hsame : (secretToken "s3cret").SameOpenly (secretToken "hunter2") := by decide
  have hfirst : Values.expand ⟨1, secretToken "s3cret", ⟨[]⟩⟩ "$\x7benv:TOKEN\x7d" = "s3cret" := by
    decide +kernel
  have hother : Values.expand ⟨1, secretToken "hunter2", ⟨[]⟩⟩ "$\x7benv:TOKEN\x7d" =
      "hunter2" := by
    decide +kernel
  refine ⟨hsame, hfirst, hother, fun h => ?_⟩
  have heq := h "$\x7benv:TOKEN\x7d" 1 ⟨[]⟩ _ _ hsame
  rw [hfirst, hother] at heq
  exact absurd heq (by decide)

end Label
end StageRuns
