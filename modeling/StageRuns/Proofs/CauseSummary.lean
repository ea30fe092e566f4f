/-
# The summary of a cause

The revision of a stage of another pipeline has a pattern: a run of characters other than
slashes, digits, another such run and digits, with slashes between. As a language over all
characters, line breaks among them, the pattern holds exactly the texts with four pieces
between slashes of which none is empty and the second and last are digits
(`mem_dependencyRevisions`), and it is what is recognised (`isDependencyRevision_iff`).

The summary is one of four lines. For each line there is a condition on the cause
(`BuildCause.Tells`), the conditions leave out no cause (`BuildCause.exists_tells`), and each
gives its line (`BuildCause.summary_of_tells`). As different lines have different texts, the
summary says which condition holds, and for which revision or user (`BuildCause.summary_iff`).

Key definitions: `someOf`, `dependencyRevisions`, `NamesRun`, `SummaryLine`,
`BuildCause.TriggeredBy`, `BuildCause.ModifiedBy`, `BuildCause.Tells`.
Key theorems: `splitOn_eq_iff`, `isDependencyRevision_iff`, `mem_dependencyRevisions`,
`BuildCause.dependencyRevision?_eq_some`, `BuildCause.author?_of_modifiedBy`,
`BuildCause.summary_iff`, `summary_tells`.
-/
import Mathlib.Computability.Language
import StageRuns.Cause
import StageRuns.Proofs.Lists

namespace StageRuns

open Computability

/-! ### Pieces between slashes -/

section Pieces

variable {cs : List Char}

theorem slashParts_eq_splitOn : ∀ cs : List Char, slashParts cs = cs.splitOn '/'
  | [] => rfl
  | c :: cs => by
    have hne : cs.splitOn '/' ≠ [] := List.splitOn_ne_nil '/' cs
    rw [List.splitOn_cons_eq_if_modifyHead, slashParts, slashParts_eq_splitOn cs]
    cases hparts : cs.splitOn '/' with
    | nil => exact absurd hparts hne
    | cons part parts => simp only [beq_iff_eq, List.modifyHead_cons]

theorem slash_notMem_of_mem_splitOn {part : List Char} (h : part ∈ cs.splitOn '/') :
    '/' ∉ part := by
  induction cs generalizing part with
  | nil =>
    rw [List.splitOn_nil, List.mem_singleton] at h
    rw [h]
    exact List.not_mem_nil
  | cons c cs ih =>
    rw [List.splitOn_cons_eq_if_modifyHead] at h
    by_cases hc : (c == '/') = true
    · rw [if_pos hc] at h
      rcases List.mem_cons.mp h with rfl | h
      · exact List.not_mem_nil
      · exact ih h
    · rw [if_neg hc] at h
      obtain ⟨first, rest, hcons⟩ := List.exists_cons_of_ne_nil (List.splitOn_ne_nil '/' cs)
      rw [hcons] at h ih
      rcases List.mem_cons.mp h with rfl | h
      · rw [List.mem_cons, not_or]
        exact ⟨fun he => hc (beq_iff_eq.mpr he.symm), ih List.mem_cons_self⟩
      · exact ih (List.mem_cons_of_mem _ h)

/-- The pieces are the texts without slashes that make the whole when slashes are put between. -/
theorem splitOn_eq_iff {parts : List (List Char)} : cs.splitOn '/' = parts ↔
    parts ≠ [] ∧ (∀ part ∈ parts, '/' ∉ part) ∧ cs = ['/'].intercalate parts := by
  constructor
  · rintro rfl
    exact ⟨List.splitOn_ne_nil '/' cs, fun part => slash_notMem_of_mem_splitOn,
      (List.intercalate_splitOn '/').symm⟩
  · rintro ⟨hne, hparts, rfl⟩
    exact List.splitOn_intercalate '/' hparts hne

theorem splitOn_eq_four {p q r s : List Char} :
    cs.splitOn '/' = [p, q, r, s] ↔
      ('/' ∉ p ∧ '/' ∉ q ∧ '/' ∉ r ∧ '/' ∉ s) ∧
        cs = p ++ '/' :: (q ++ '/' :: (r ++ '/' :: s)) := by
  rw [splitOn_eq_iff]
  simp [List.intercalate]

end Pieces

/-! ### The pattern of a dependency revision -/

section Pattern

variable {p : Char → Bool} {w : List Char}

/-- The texts of one character of a class. -/
def oneOf (p : Char → Bool) : Language Char := {w | ∃ c, p c = true ∧ w = [c]}

/-- The texts of one or more characters of a class. -/
def someOf (p : Char → Bool) : Language Char := oneOf p * (oneOf p)∗

/-- A name without slashes, digits, another such name and digits, with slashes between. -/
def dependencyRevisions : Language Char :=
  someOf (· != '/') * {['/']} * someOf Text.isDecimalDigit * {['/']} *
    someOf (· != '/') * {['/']} * someOf Text.isDecimalDigit

theorem mem_kstar_oneOf : w ∈ (oneOf p)∗ ↔ ∀ c ∈ w, p c = true := by
  rw [Language.mem_kstar]
  constructor
  · rintro ⟨ws, rfl, hws⟩ c hc
    obtain ⟨v, hv, hc⟩ := List.mem_flatten.mp hc
    obtain ⟨d, hd, rfl⟩ := hws v hv
    rwa [List.mem_singleton.mp hc]
  · intro h
    refine ⟨w.map fun c => [c], by rw [← List.flatMap_def, List.flatMap_singleton'], ?_⟩
    intro v hv
    obtain ⟨c, hc, rfl⟩ := List.mem_map.mp hv
    exact ⟨c, h c hc, rfl⟩

theorem mem_someOf : w ∈ someOf p ↔ w ≠ [] ∧ ∀ c ∈ w, p c = true := by
  rw [someOf, Language.mem_mul]
  constructor
  · rintro ⟨_, ⟨c, hc, rfl⟩, v, hv, rfl⟩
    rw [mem_kstar_oneOf] at hv
    exact ⟨List.cons_ne_nil c v, List.forall_mem_cons.mpr ⟨hc, hv⟩⟩
  · rintro ⟨hne, h⟩
    obtain ⟨c, v, rfl⟩ := List.exists_cons_of_ne_nil hne
    obtain ⟨hc, hv⟩ := List.forall_mem_cons.mp h
    exact ⟨[c], ⟨c, hc, rfl⟩, v, mem_kstar_oneOf.mpr hv, rfl⟩

/-- The text has exactly four pieces between slashes: the name of a pipeline, digits, the name
of a stage and digits, none of them empty. -/
def NamesRun (revision : String) : Prop :=
  ∃ pipeline counter stage run, revision.toList.splitOn '/' = [pipeline, counter, stage, run] ∧
    pipeline ≠ [] ∧ (counter ≠ [] ∧ ∀ c ∈ counter, Text.isDecimalDigit c = true) ∧
    stage ≠ [] ∧ run ≠ [] ∧ ∀ c ∈ run, Text.isDecimalDigit c = true

theorem isDigits_iff : isDigits w = true ↔ w ≠ [] ∧ ∀ c ∈ w, Text.isDecimalDigit c = true := by
  simp [isDigits]

theorem isDependencyRevision_iff {revision : String} :
    isDependencyRevision revision = true ↔ NamesRun revision := by
  unfold isDependencyRevision NamesRun
  rw [slashParts_eq_splitOn]
  split
  next pipeline counter stage run hparts =>
    simp only [Bool.and_eq_true, Bool.not_eq_true', List.isEmpty_eq_false_iff, isDigits_iff,
      and_assoc]
    constructor
    · intro h
      exact ⟨pipeline, counter, stage, run, hparts, h⟩
    · rintro ⟨pipeline', counter', stage', run', heq, h⟩
      rw [hparts] at heq
      cases heq
      exact h
  next hparts =>
    simp only [Bool.false_eq_true, false_iff]
    rintro ⟨pipeline, counter, stage, run, heq, -⟩
    exact hparts pipeline counter stage run heq

instance (revision : String) : Decidable (NamesRun revision) :=
  decidable_of_iff _ isDependencyRevision_iff

/-! A line break may stand in a name, but not after the last digit. -/

example : NamesRun "build\n/12/unit tests/٣" := by decide

example : ¬ NamesRun "build/12/unit tests/3\n" := by decide

theorem slash_notMem_iff : '/' ∉ w ↔ ∀ c ∈ w, (c != '/') = true := by
  simp only [bne_iff_ne, ne_eq]
  exact ⟨fun h c hc he => h (he ▸ hc), fun h hmem => h _ hmem rfl⟩

theorem slash_notMem_of_digits (h : ∀ c ∈ w, Text.isDecimalDigit c = true) : '/' ∉ w := fun hmem =>
  absurd (h _ hmem) (by decide)

theorem mem_mul_slash {l m : Language Char} :
    w ∈ l * ({['/']} * m) ↔ ∃ u ∈ l, ∃ v ∈ m, w = u ++ '/' :: v := by
  simp only [Language.mem_mul]
  constructor
  · rintro ⟨u, hu, _, ⟨_, rfl, v, hv, rfl⟩, rfl⟩
    exact ⟨u, hu, v, hv, rfl⟩
  · rintro ⟨u, hu, v, hv, rfl⟩
    exact ⟨u, hu, '/' :: v, ⟨['/'], rfl, v, hv, rfl⟩, rfl⟩

/-- The pattern holds the texts with the right pieces and no others. -/
theorem mem_dependencyRevisions {revision : String} :
    revision.toList ∈ dependencyRevisions ↔ NamesRun revision := by
  simp only [dependencyRevisions, mul_assoc, mem_mul_slash, mem_someOf]
  constructor
  · rintro ⟨p, ⟨hp, hps⟩, _, ⟨q, hq, _, ⟨r, ⟨hr, hrs⟩, s, hs, rfl⟩, rfl⟩, heq⟩
    refine ⟨p, q, r, s, splitOn_eq_four.mpr ⟨?_, heq⟩, hp, hq, hr, hs⟩
    exact ⟨slash_notMem_iff.mpr hps, slash_notMem_of_digits hq.2, slash_notMem_iff.mpr hrs,
      slash_notMem_of_digits hs.2⟩
  · rintro ⟨p, q, r, s, hsplit, hp, hq, hr, hs⟩
    obtain ⟨⟨hps, -, hrs, -⟩, heq⟩ := splitOn_eq_four.mp hsplit
    rw [slash_notMem_iff] at hps hrs
    exact ⟨p, ⟨hp, hps⟩, _, ⟨q, hq, _, ⟨r, ⟨hr, hrs⟩, s, hs, rfl⟩, rfl⟩, heq⟩

end Pattern

/-! ### The lines -/

/-- The four lines that summarise a cause. -/
inductive SummaryLine where
  | forced (user : String)
  | unmodified
  | triggered (revision : String)
  | modified (author : String)

namespace SummaryLine

/-- The line as it is written. -/
def text : SummaryLine → String
  | forced user => "Forced by " ++ user
  | unmodified => "No modifications"
  | triggered revision => "triggered by " ++ revision
  | modified author => "modified by " ++ author

/-- Lines of different shapes begin with different letters. -/
theorem text_inj {k l : SummaryLine} (h : k.text = l.text) : k = l := by
  have hhead := congrArg (fun s : String => s.toList.head?) h
  cases k <;> cases l <;> simp [text] at h hhead ⊢ <;> exact h

end SummaryLine

/-! ### What a line tells of the cause -/

theorem isAnonymous_iff {user : String} :
    isAnonymous user = true ↔ user.toList.map Char.toLower = "anonymous".toList := by
  rw [isAnonymous, Text.sameName_iff, Text.asciiLower, Text.asciiLower, String.ofList_inj]
  exact Iff.rfl

namespace BuildCause

variable {cause : BuildCause} {revision author : String}

/-- No carried material has a modification. -/
def Unmodified (cause : BuildCause) : Prop :=
  ∀ r ∈ cause.revisions.entries, r.modifications = []

/-- The cause carries the revisions of one material alone, and the latest of them is this one,
which names a run. -/
def TriggeredBy (cause : BuildCause) (revision : String) : Prop :=
  ∃ r m earlier, cause.revisions.entries = [r] ∧ r.modifications = m :: earlier ∧
    m.revision = revision ∧ NamesRun revision

/-- The first material that has a modification has this author for its first one, or that one
has no author and this is the text for nobody known. -/
def ModifiedBy (cause : BuildCause) (author : String) : Prop :=
  ∃ before r m earlier after, cause.revisions.entries = before ++ r :: after ∧
    (∀ b ∈ before, b.modifications = []) ∧ r.modifications = m :: earlier ∧
    m.userName.getD "unknown" = author

/-- What must be so of the cause for each line. -/
def Tells (cause : BuildCause) : SummaryLine → Prop
  | .forced user => cause.kind = .manualForced ∧
    user = if cause.approver.toList.map Char.toLower = "anonymous".toList then "anonymous"
      else cause.approver
  | .unmodified => cause.kind ≠ .manualForced ∧ cause.Unmodified
  | .triggered revision => cause.kind ≠ .manualForced ∧ cause.TriggeredBy revision
  | .modified author => cause.kind ≠ .manualForced ∧ (∀ revision, ¬ cause.TriggeredBy revision) ∧
    cause.ModifiedBy author

theorem isForced_iff : cause.isForced = true ↔ cause.kind = .manualForced := beq_iff_eq

theorem isUnmodified_iff : cause.revisions.isUnmodified = true ↔ cause.Unmodified := by
  simp [Revisions.isUnmodified, Unmodified]

theorem dependencyRevision?_eq_some :
    cause.dependencyRevision? = some revision ↔ cause.TriggeredBy revision := by
  unfold dependencyRevision? TriggeredBy
  split
  next r hentries =>
    rw [Option.filter_eq_some_iff, isDependencyRevision_iff, MaterialRevision.revision?,
      MaterialRevision.latest?, Option.map_eq_some_iff]
    constructor
    · rintro ⟨⟨m, hm, hrevision⟩, hnames⟩
      obtain ⟨earlier, hearlier⟩ := List.head?_eq_some_iff.mp hm
      exact ⟨r, m, earlier, hentries, hearlier, hrevision, hnames⟩
    · rintro ⟨r', m, earlier, hentries', hearlier, hrevision, hnames⟩
      rw [hentries] at hentries'
      cases hentries'
      exact ⟨⟨m, by rw [hearlier]; rfl, hrevision⟩, hnames⟩
  next hentries =>
    simp only [reduceCtorEq, false_iff]
    rintro ⟨r, -, -, hentries', -⟩
    exact hentries r hentries'

theorem dependencyRevision?_eq_none :
    cause.dependencyRevision? = none ↔ ∀ revision, ¬ cause.TriggeredBy revision := by
  simp only [Option.eq_none_iff_forall_ne_some, ne_eq, dependencyRevision?_eq_some]

theorem author?_of_modifiedBy (h : cause.ModifiedBy author) :
    cause.author?.getD "unknown" = author := by
  obtain ⟨before, r, m, earlier, after, hentries, hbefore, hmodifications, hauthor⟩ := h
  have hfirst : cause.revisions.entries.findSome? (·.latest?) = some m := by
    rw [List.findSome?_eq_some_iff]
    refine ⟨before, r, after, hentries, ?_, fun b hb => ?_⟩
    · rw [MaterialRevision.latest?, hmodifications, List.head?_cons]
    · rw [MaterialRevision.latest?, hbefore b hb, List.head?_nil]
  rw [author?, hfirst, Option.bind_some]
  exact hauthor

theorem not_unmodified_of_mem {r : MaterialRevision} {m : Modification}
    {earlier : List Modification} (hr : r ∈ cause.revisions.entries)
    (h : r.modifications = m :: earlier) : ¬ cause.Unmodified := by
  intro hall
  rw [hall r hr] at h
  cases h

theorem TriggeredBy.not_unmodified (h : cause.TriggeredBy revision) : ¬ cause.Unmodified := by
  obtain ⟨r, m, earlier, hentries, hmodifications, -⟩ := h
  exact not_unmodified_of_mem (hentries ▸ List.mem_singleton_self r) hmodifications

theorem ModifiedBy.not_unmodified (h : cause.ModifiedBy author) : ¬ cause.Unmodified := by
  obtain ⟨before, r, m, earlier, after, hentries, -, hmodifications, -⟩ := h
  exact not_unmodified_of_mem (hentries ▸ List.mem_append_cons_self) hmodifications

theorem exists_modifiedBy (h : ¬ cause.Unmodified) : ∃ author, cause.ModifiedBy author := by
  unfold Unmodified at h
  push Not at h
  obtain ⟨r, hr, hne⟩ := h
  obtain ⟨before, s, after, hentries, hbefore, hs⟩ :=
    Lists.exists_first (P := fun r : MaterialRevision => r.modifications ≠ []) hr hne
  obtain ⟨m, earlier, hcons⟩ := List.exists_cons_of_ne_nil hs
  exact ⟨_, before, s, m, earlier, after, hentries, fun b hb => not_not.mp (hbefore b hb),
    hcons, rfl⟩

/-- There is no cause that no line fits. -/
theorem exists_tells (cause : BuildCause) : ∃ line, cause.Tells line := by
  by_cases hforced : cause.kind = .manualForced
  · exact ⟨.forced _, hforced, rfl⟩
  by_cases hunmodified : cause.Unmodified
  · exact ⟨.unmodified, hforced, hunmodified⟩
  by_cases htriggered : ∃ revision, cause.TriggeredBy revision
  · obtain ⟨revision, h⟩ := htriggered
    exact ⟨.triggered revision, hforced, h⟩
  · obtain ⟨author, h⟩ := exists_modifiedBy hunmodified
    exact ⟨.modified author, hforced, not_exists.mp htriggered, h⟩

/-- The summary of a cause that nobody forced and that has a modification. -/
theorem summary_of_modification (hforced : cause.kind ≠ .manualForced) (h : ¬ cause.Unmodified) :
    cause.summary = cause.dependencyRevision?.elim
      ("modified by " ++ cause.author?.getD "unknown") ("triggered by " ++ ·) := by
  rw [summary, if_neg (isForced_iff.not.mpr hforced), if_neg (isUnmodified_iff.not.mpr h)]
  cases cause.dependencyRevision? <;> rfl

/-- A line that fits is the summary. -/
theorem summary_of_tells {line : SummaryLine} (h : cause.Tells line) :
    cause.summary = line.text := by
  cases line with
  | forced user =>
    obtain ⟨hforced, rfl⟩ := h
    rw [summary, if_pos (isForced_iff.mpr hforced)]
    simp only [isAnonymous_iff]
    rfl
  | unmodified =>
    obtain ⟨hforced, hunmodified⟩ := h
    rw [summary, if_neg (isForced_iff.not.mpr hforced),
      if_pos (isUnmodified_iff.mpr hunmodified)]
    rfl
  | triggered revision =>
    obtain ⟨hforced, htriggered⟩ := h
    rw [summary_of_modification hforced htriggered.not_unmodified,
      dependencyRevision?_eq_some.mpr htriggered, Option.elim_some]
    rfl
  | modified author =>
    obtain ⟨hforced, hnone, hmodified⟩ := h
    rw [summary_of_modification hforced hmodified.not_unmodified,
      dependencyRevision?_eq_none.mpr hnone, Option.elim_none, author?_of_modifiedBy hmodified]
    rfl

/-- The summary is a line exactly if the line fits. -/
theorem summary_iff (cause : BuildCause) (line : SummaryLine) :
    cause.summary = line.text ↔ cause.Tells line := by
  constructor
  · intro h
    obtain ⟨line', hline'⟩ := cause.exists_tells
    have heq : line = line' := SummaryLine.text_inj (h.symm.trans (summary_of_tells hline'))
    rw [heq]
    exact hline'
  · exact summary_of_tells

end BuildCause

/-- The summary tells of every cause whether a user forced it and who, whether it has no
modification, the revision that triggered it, or else the author; and of a revision nothing
but its pieces between slashes counts, whatever characters they have. -/
theorem summary_tells (cause : BuildCause) :
    (∀ user, cause.summary = "Forced by " ++ user ↔
      cause.kind = .manualForced ∧
        user = if cause.approver.toList.map Char.toLower = "anonymous".toList then "anonymous"
          else cause.approver) ∧
    (cause.summary = "No modifications" ↔
      cause.kind ≠ .manualForced ∧ ∀ r ∈ cause.revisions.entries, r.modifications = []) ∧
    (∀ revision, cause.summary = "triggered by " ++ revision ↔
      cause.kind ≠ .manualForced ∧ cause.TriggeredBy revision) ∧
    (∀ author, cause.summary = "modified by " ++ author ↔
      cause.kind ≠ .manualForced ∧ (∀ revision, ¬ cause.TriggeredBy revision) ∧
        cause.ModifiedBy author) ∧
    ∀ revision, (isDependencyRevision revision = true ↔ revision.toList ∈ dependencyRevisions) ∧
      (isDependencyRevision revision = true ↔ NamesRun revision) := by
  refine ⟨fun user => ?_, ?_, fun revision => ?_, fun author => ?_, fun revision => ⟨?_, ?_⟩⟩
  · exact cause.summary_iff (.forced user)
  · exact cause.summary_iff .unmodified
  · exact cause.summary_iff (.triggered revision)
  · exact cause.summary_iff (.modified author)
  · exact isDependencyRevision_iff.trans mem_dependencyRevisions.symm
  · exact isDependencyRevision_iff

end StageRuns
