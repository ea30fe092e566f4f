/-
# Labels that tell runs apart

A placeholder stands for the counter if its name is `COUNT`, in any case, and no number
of characters to keep is read (`Label.Placeholder.IsCounter`). If a template has one, two
counters never give the same label, whatever digits the text around them and the other
values hold (`Label.Values.expand_ne`). If it has none, all counters give the same one.

All parts but the counters stay as they are. If one counter has fewer digits, no part is
longer with it and those of the counter are shorter, so that the label is shorter. If
both have equally many, each part is as long as before, so that equal labels have equal
parts, and the counters are written alike.

Key definitions: `Label.Placeholder.IsCounter`, `Label.ShowsCounter`.
Key theorems: `Label.Values.expandSegment_withCounter`, `Label.Values.length_expand_lt_of_digits`,
`Label.Values.expand_ne`, `Pipeline.foldl_withCounter`, `Label.tellsRunsApart_iff`.
-/
import StageRuns.Pipeline
import StageRuns.Proofs.Lists
import StageRuns.Proofs.Names

namespace StageRuns
namespace Label

/-- The placeholder stands for the counter. -/
def Placeholder.IsCounter (p : Placeholder) : Prop :=
  Text.sameName p.name "COUNT" = true ∧ p.count? = none

/-- The part is a placeholder that stands for the counter. -/
def Segment.IsCounter : Segment → Prop
  | .literal _ => False
  | .placeholder p => p.IsCounter

/-- A placeholder of the template stands for the counter. -/
def ShowsCounter (template : String) : Prop :=
  ∃ p, .placeholder p ∈ segments template.toList ∧ p.IsCounter

namespace Values

/-- The values with another counter. -/
def withCounter (values : Values) (counter : Nat) : Values := { values with counter }

variable {template : String} {segment : Segment} {m n : Nat}

theorem expandSegment_of_isCounter (values : Values) (h : segment.IsCounter) :
    values.expandSegment segment = Text.digitsOfNat values.counter := by
  cases segment with
  | literal c => exact h.elim
  | placeholder p =>
    obtain ⟨hname, hcount⟩ := h
    simp [expandSegment, resolve?, lookup?, hname, hcount]

/-- All other parts stay as they are. -/
theorem expandSegment_withCounter (values : Values) (h : ¬ segment.IsCounter) (n : Nat) :
    (values.withCounter n).expandSegment segment = values.expandSegment segment := by
  cases segment with
  | literal c => rfl
  | placeholder p =>
    have hnot : (Text.sameName p.name "COUNT" && p.count?.isNone) = false := by
      rw [Bool.eq_false_iff]
      intro hboth
      rw [Bool.and_eq_true, Option.isNone_iff_eq_none] at hboth
      exact h hboth
    have hresolve : (values.withCounter n).resolve? p = values.resolve? p := by
      simp only [resolve?, lookup?, hnot]
      rfl
    rw [expandSegment, expandSegment, hresolve]

/-- A part is as long as with another counter, if it is not a counter or the counters have
equally many digits. -/
theorem length_expandSegment_eq (values : Values) (segment : Segment)
    (h : segment.IsCounter → (Text.digitsOfNat m).length = (Text.digitsOfNat n).length) :
    ((values.withCounter m).expandSegment segment).length =
      ((values.withCounter n).expandSegment segment).length := by
  by_cases hs : segment.IsCounter
  · rw [expandSegment_of_isCounter _ hs, expandSegment_of_isCounter _ hs]
    exact h hs
  · rw [values.expandSegment_withCounter hs, values.expandSegment_withCounter hs]

/-- A counter of fewer digits gives a shorter label. -/
theorem length_expand_lt_of_digits (values : Values) (hshows : ShowsCounter template)
    (hlt : (Text.digitsOfNat m).length < (Text.digitsOfNat n).length) :
    ((values.withCounter m).expand template).length <
      ((values.withCounter n).expand template).length := by
  obtain ⟨p, hp, hcounter⟩ := hshows
  have hcounters : ∀ segment : Segment, segment.IsCounter →
      ((values.withCounter m).expandSegment segment).length <
        ((values.withCounter n).expandSegment segment).length := by
    intro segment hs
    rw [expandSegment_of_isCounter _ hs, expandSegment_of_isCounter _ hs]
    exact hlt
  rw [expand, expand, String.length_ofList, String.length_ofList]
  refine Lists.length_flatMap_lt (fun segment _ => ?_) ⟨_, hp, hcounters (.placeholder p) hcounter⟩
  by_cases hs : segment.IsCounter
  · exact Nat.le_of_lt (hcounters segment hs)
  · exact Nat.le_of_eq (values.length_expandSegment_eq segment fun h => absurd h hs)

/-- Equal labels of counters with equally many digits are labels of one counter. -/
theorem eq_of_expand_eq (values : Values) (hshows : ShowsCounter template)
    (hlength : (Text.digitsOfNat m).length = (Text.digitsOfNat n).length)
    (h : (values.withCounter m).expand template = (values.withCounter n).expand template) :
    m = n := by
  obtain ⟨p, hp, hcounter⟩ := hshows
  have hpart := Lists.eq_of_flatMap_eq
    (fun segment _ => values.length_expandSegment_eq segment fun _ => hlength)
    (String.ofList_injective h) _ hp
  have hsegment : (Segment.placeholder p).IsCounter := hcounter
  rw [expandSegment_of_isCounter _ hsegment, expandSegment_of_isCounter _ hsegment] at hpart
  exact Text.digitsOfNat_inj hpart

/-- If the template shows the counter, two counters have two labels. -/
theorem expand_ne (values : Values) (hshows : ShowsCounter template) (hne : m ≠ n) :
    (values.withCounter m).expand template ≠ (values.withCounter n).expand template := by
  intro h
  rcases Nat.lt_trichotomy (Text.digitsOfNat m).length (Text.digitsOfNat n).length with
    hlt | heq | hgt
  · have hshorter := values.length_expand_lt_of_digits hshows hlt
    rw [h] at hshorter
    exact Nat.lt_irrefl _ hshorter
  · exact hne (values.eq_of_expand_eq hshows heq h)
  · have hshorter := values.length_expand_lt_of_digits hshows hgt
    rw [h] at hshorter
    exact Nat.lt_irrefl _ hshorter

/-- If it does not, all counters have one label. -/
theorem expand_withCounter (values : Values) (hno : ¬ ShowsCounter template) (n : Nat) :
    (values.withCounter n).expand template = values.expand template := by
  rw [expand, expand]
  refine congrArg String.ofList (List.flatMap_congr fun segment hs => ?_)
  apply values.expandSegment_withCounter
  intro hcounter
  cases segment with
  | literal c => exact hcounter
  | placeholder p => exact hno ⟨p, hs, hcounter⟩

end Values
end Label

/-- Only the last of many counters counts. -/
theorem Pipeline.foldl_withCounter (counters : List Nat) (last : Nat) : ∀ run : Pipeline,
    (counters ++ [last]).foldl Pipeline.withCounter run = run.withCounter last := by
  induction counters with
  | nil => exact fun run => rfl
  | cons counter counters ih => exact fun run => ih (run.withCounter counter)

/-- Two counters always have two labels exactly if a placeholder of the template stands for
the counter, whatever variables and revisions there are. A run that gets one counter
after the other is the run with the last one alone, and has its label. -/
theorem Label.tellsRunsApart_iff (template : String) (environment : Variables)
    (revisions : Revisions) :
    ((∀ m n, m ≠ n → Values.expand ⟨m, environment, revisions⟩ template ≠
        Values.expand ⟨n, environment, revisions⟩ template) ↔ ShowsCounter template) ∧
    ∀ (run : Pipeline) (counters : List Nat) (last : Nat),
      (counters ++ [last]).foldl Pipeline.withCounter run = run.withCounter last ∧
        (run.withCounter last).label = some (Values.expand
          ⟨last, run.environment, run.cause.revisions⟩ run.labelTemplate) := by
  let values : Values := ⟨0, environment, revisions⟩
  refine ⟨⟨fun happart => ?_, fun hshows m n hne => values.expand_ne hshows hne⟩,
    fun run counters last => ⟨run.foldl_withCounter counters last, rfl⟩⟩
  by_contra hno
  apply happart 0 1 (by decide)
  calc (values.withCounter 0).expand template
      = values.expand template := values.expand_withCounter hno 0
    _ = (values.withCounter 1).expand template := (values.expand_withCounter hno 1).symm

/-- Blanks around the key and the case of its letters do not matter; a number of characters
to keep does. -/
example : Label.Values.expand ⟨17, .empty, ⟨[]⟩⟩ "1-${ cOunt }-${COUNT[:1]}" =
    "1-17-${COUNT[:1]}" := by decide +kernel

end StageRuns
