/-
# What a cause carries

Materials are told apart by the text that their digest is taken of: the kind, a mark and the
URL, or the name of a material without a URL. No kind has a character of the mark, so the text
determines what stands on either side of it, whatever that is (`Material.identity_inj`). Unless
the digests of two different texts are the same, a cause carries a material, as far as digests
tell, exactly if it has revisions of the same source (`BuildCause.carries_iff`). So the check
of a pipeline refuses exactly the materials of other sources than those that are carried
(`checkPipeline_tells`). Whichever digests there are, its outcome depends on the set of carried
sources alone, and is no worse where more of them are carried (`BuildCause.checkPipeline_congr`,
`BuildCause.checkPipeline_mono`).

Key definitions: `Material.SameSource`, `BuildCause.Carries`, `BuildCause.DigestsTell`,
`BuildCause.CarriesAllOf`.
Key theorems: `Material.identity_inj`, `BuildCause.carries_iff`, `BuildCause.missing_eq`,
`BuildCause.checkPipeline_eq_ok`, `BuildCause.checkPipeline_eq_error`,
`BuildCause.checkPipeline_mono`, `checkPipeline_tells`.
-/
import StageRuns.Cause
import StageRuns.Proofs.Lists

namespace StageRuns

/-! ### Identities -/

namespace MaterialKind

theorem text_inj {k l : MaterialKind} (h : k.text = l.text) : k = l := by
  cases k <;> cases l <;> first | rfl | exact absurd h (by decide)

/-- No kind has the character that the mark begins with. -/
theorem ne_mark_of_mem_text (k : MaterialKind) : ∀ c ∈ k.text.toList, (c != '<') = true := by
  have hall : k.text.toList.all (· != '<') = true := by cases k <;> decide
  exact List.all_eq_true.mp hall

end MaterialKind

namespace Material

variable {m n : Material}

/-- The materials are of one kind and go by one text, which is the URL of a material, or its
name if it has none. -/
def SameSource (m n : Material) : Prop :=
  m.kind = n.kind ∧ m.url.getD m.name = n.url.getD n.name

instance (m n : Material) : Decidable (m.SameSource n) := inferInstanceAs (Decidable (_ ∧ _))

theorem SameSource.symm (h : m.SameSource n) : n.SameSource m := ⟨h.1.symm, h.2.symm⟩

/-- The text of a material says its kind, and its URL or name. -/
theorem identity_inj : m.identity = n.identity ↔ m.SameSource n := by
  constructor
  · intro h
    have hlist := congrArg String.toList h
    simp only [identity, address, String.toList_append, List.append_assoc] at hlist
    have hmark : "<|>".toList = ['<', '|', '>'] := by decide
    rw [hmark] at hlist
    obtain ⟨hkind, hrest⟩ := Lists.append_cons_inj m.kind.ne_mark_of_mem_text
      n.kind.ne_mark_of_mem_text (by decide) hlist
    refine ⟨MaterialKind.text_inj (String.toList_injective hkind), String.toList_injective ?_⟩
    simpa using hrest
  · rintro ⟨hkind, haddress⟩
    rw [identity, identity, address, address, hkind, haddress]

theorem SameSource.fingerprint_eq (h : m.SameSource n) : m.fingerprint = n.fingerprint := by
  rw [fingerprint, fingerprint, identity_inj.mpr h]

end Material

/-! ### The check -/

namespace BuildCause

variable {cause other : BuildCause} {m : Material} {ms : List Material}

/-- The cause has revisions of a material of this source. -/
def Carries (cause : BuildCause) (m : Material) : Prop :=
  ∃ r ∈ cause.revisions.entries, m.SameSource r.material

instance (cause : BuildCause) (m : Material) : Decidable (cause.Carries m) :=
  inferInstanceAs (Decidable (∃ r ∈ _, _))

/-- No two different texts of these materials and of the carried ones have the same digest. -/
def DigestsTell (cause : BuildCause) (ms : List Material) : Prop :=
  ∀ m ∈ ms, ∀ r ∈ cause.revisions.entries,
    Hash.sha256 r.material.identity = Hash.sha256 m.identity → r.material.identity = m.identity

/-- The cause carries all that the other one carries. -/
def CarriesAllOf (cause other : BuildCause) : Prop :=
  ∀ r ∈ other.revisions.entries, cause.Carries r.material

instance (cause other : BuildCause) : Decidable (cause.CarriesAllOf other) :=
  inferInstanceAs (Decidable (∀ r ∈ _, _))

theorem carries_eq_true : cause.revisions.carries m = true ↔
    ∃ r ∈ cause.revisions.entries, r.material.fingerprint = m.fingerprint := by
  simp [Revisions.carries]

/-- Digests find the materials that are carried. -/
theorem carries_iff (h : cause.DigestsTell ms) (hm : m ∈ ms) :
    cause.revisions.carries m = true ↔ cause.Carries m := by
  rw [carries_eq_true]
  constructor
  · rintro ⟨r, hr, hdigest⟩
    exact ⟨r, hr, Material.identity_inj.mp (h m hm r hr hdigest).symm⟩
  · rintro ⟨r, hr, hsource⟩
    exact ⟨r, hr, hsource.symm.fingerprint_eq⟩

theorem missing_eq (h : cause.DigestsTell ms) :
    cause.missing ms = ms.filter fun m => !decide (cause.Carries m) := by
  unfold missing
  refine List.filter_congr fun m hm => ?_
  rw [Bool.eq_iff_iff.mpr ((carries_iff h hm).trans decide_eq_true_iff.symm)]

theorem checkMaterials_eq_ok : cause.checkMaterials ms = .ok () ↔ cause.missing ms = [] := by
  unfold checkMaterials
  split
  next h => simp [h]
  next h =>
    refine ⟨nofun, fun hnil => absurd hnil ?_⟩
    simpa using h

theorem checkMaterials_eq_error {failure : Failure} : cause.checkMaterials ms = .error failure ↔
    cause.missing ms ≠ [] ∧ failure = .materialsMismatch ((cause.missing ms).map (·.name)) := by
  unfold checkMaterials
  split
  next h => simp [h]
  next h =>
    have hne : cause.missing ms ≠ [] := by simpa using h
    simp [hne, eq_comm]

section Pipeline

variable {pipeline : PipelineConfig}

/-- The check finds no fault exactly if nothing is carried or nothing is missing. -/
theorem checkPipeline_eq_ok (h : cause.DigestsTell pipeline.materials) :
    cause.checkPipeline pipeline = .ok () ↔
      cause.revisions.entries = [] ∨ ∀ m ∈ pipeline.materials, cause.Carries m := by
  unfold checkPipeline
  by_cases hnone : cause.revisions.entries = []
  · simp [hnone]
  · rw [if_neg (by simpa using hnone), checkMaterials_eq_ok, missing_eq h]
    simp [hnone, List.filter_eq_nil_iff]

theorem checkPipeline_eq_error (h : cause.DigestsTell pipeline.materials) {failure : Failure} :
    cause.checkPipeline pipeline = .error failure ↔
      cause.revisions.entries ≠ [] ∧ (∃ m ∈ pipeline.materials, ¬ cause.Carries m) ∧
        failure = .materialsMismatch
          ((pipeline.materials.filter fun m => !decide (cause.Carries m)).map (·.name)) := by
  unfold checkPipeline
  by_cases hnone : cause.revisions.entries = []
  · simp [hnone]
  · rw [if_neg (by simpa using hnone), checkMaterials_eq_error, missing_eq h]
    simp [hnone, List.filter_eq_nil_iff]

/-! ### Whichever digests there are -/

theorem carries_mono (h : other.CarriesAllOf cause) (hm : cause.revisions.carries m = true) :
    other.revisions.carries m = true := by
  obtain ⟨r, hr, hdigest⟩ := carries_eq_true.mp hm
  obtain ⟨s, hs, hsource⟩ := h r hr
  exact carries_eq_true.mpr ⟨s, hs, hsource.symm.fingerprint_eq.trans hdigest⟩

theorem entries_ne_nil (h : other.CarriesAllOf cause) (hne : cause.revisions.entries ≠ []) :
    other.revisions.entries ≠ [] := by
  obtain ⟨r, hr⟩ := List.exists_mem_of_ne_nil _ hne
  obtain ⟨s, hs, -⟩ := h r hr
  exact List.ne_nil_of_mem hs

/-- To carry more does no harm, once something is carried. -/
theorem checkPipeline_mono (hne : cause.revisions.entries ≠ []) (h : other.CarriesAllOf cause)
    (hok : cause.checkPipeline pipeline = .ok ()) : other.checkPipeline pipeline = .ok () := by
  unfold checkPipeline at hok ⊢
  rw [if_neg (by simpa using hne), checkMaterials_eq_ok] at hok
  rw [if_neg (by simpa using entries_ne_nil h hne), checkMaterials_eq_ok]
  simp only [missing, List.filter_eq_nil_iff, Bool.not_eq_true', Bool.not_eq_false] at hok ⊢
  exact fun m hm => carries_mono h (hok m hm)

/-- What is carried twice, in another order, or with other modifications, is carried. -/
theorem checkPipeline_congr (h : other.CarriesAllOf cause) (hback : cause.CarriesAllOf other) :
    other.checkPipeline pipeline = cause.checkPipeline pipeline := by
  have hmissing (ms : List Material) : other.missing ms = cause.missing ms := by
    refine List.filter_congr fun m _ => ?_
    rw [Bool.eq_iff_iff.mpr ⟨carries_mono (m := m) hback, carries_mono h⟩]
  have hempty : other.revisions.entries.isEmpty = cause.revisions.entries.isEmpty := by
    rw [Bool.eq_iff_iff, List.isEmpty_iff, List.isEmpty_iff]
    exact not_iff_not.mp ⟨entries_ne_nil hback, entries_ne_nil h⟩
  rw [checkPipeline, checkPipeline, checkMaterials, checkMaterials, hmissing, hempty]

end Pipeline

end BuildCause

/-- Unless two different materials have one digest, the check of a pipeline succeeds exactly if
the cause has no revisions at all, or revisions of the source of each of the materials. In all
other cases it fails, and names the materials that are missing, in their order and as often as
they are configured. The sources that are carried decide the outcome, in whatever order, how
often and with whatever modifications they are carried; further ones do not turn success into
failure. -/
theorem checkPipeline_tells :
    (∀ (cause : BuildCause) (pipeline : PipelineConfig), cause.DigestsTell pipeline.materials →
      (cause.checkPipeline pipeline = .ok () ↔
        cause.revisions.entries = [] ∨ ∀ m ∈ pipeline.materials, cause.Carries m) ∧
      ∀ failure, cause.checkPipeline pipeline = .error failure ↔
        cause.revisions.entries ≠ [] ∧ (∃ m ∈ pipeline.materials, ¬ cause.Carries m) ∧
          failure = .materialsMismatch
            ((pipeline.materials.filter fun m => !decide (cause.Carries m)).map (·.name))) ∧
    ∀ (cause other : BuildCause) (pipeline : PipelineConfig), other.CarriesAllOf cause →
      (cause.CarriesAllOf other →
        other.checkPipeline pipeline = cause.checkPipeline pipeline) ∧
      (cause.revisions.entries ≠ [] → cause.checkPipeline pipeline = .ok () →
        other.checkPipeline pipeline = .ok ()) := by
  refine ⟨fun cause pipeline h => ⟨BuildCause.checkPipeline_eq_ok h,
    fun failure => BuildCause.checkPipeline_eq_error h⟩, fun cause other pipeline h => ⟨?_, ?_⟩⟩
  · exact BuildCause.checkPipeline_congr h
  · exact fun hne => BuildCause.checkPipeline_mono hne h

/-- A pipeline of three materials. Two are of one kind and have the same name, but other URLs;
the mark is part of a URL, and of the name of the third, which is configured twice. -/
def markedPipeline : PipelineConfig where
  name := "p"
  materials := [⟨"code", .git, some "u<|>v"⟩, ⟨"code", .git, some "u<|>w"⟩, ⟨"u<|>v", .svn, none⟩,
    ⟨"u<|>v", .svn, none⟩]
  stages := []

/-- A cause that carries the first of them by another name, without modifications. -/
def markedCause : BuildCause :=
  .withModifications ⟨[⟨⟨"renamed", .git, some "u<|>v"⟩, [], false⟩]⟩ "dev"

/-- The same material, twice; it goes by its name the second time. -/
def markedTwice : BuildCause :=
  .withModifications ⟨[⟨⟨"a", .git, some "u<|>v"⟩, [⟨"1", none, none, ⟨0, 0⟩⟩], true⟩,
    ⟨⟨"u<|>v", .git, none⟩, [], true⟩]⟩ ""

theorem digestsTell_markedCause : markedCause.DigestsTell markedPipeline.materials := by
  intro m hm r hr hdigest
  rw [List.mem_singleton.mp hr] at hdigest ⊢
  rcases List.mem_cons.mp hm with rfl | hm
  · rfl
  rcases List.mem_cons.mp hm with rfl | hm
  · exact absurd hdigest (by decide +kernel)
  have hname : m = ⟨"u<|>v", .svn, none⟩ := by simpa using hm
  subst hname
  exact absurd hdigest (by decide +kernel)

/-- The material of the other URL is missing, and that of the other kind, as often as it is
configured; without them the pipeline is matched. -/
theorem checkPipeline_tells_marked :
    markedCause.checkPipeline markedPipeline =
      .error (.materialsMismatch ["code", "u<|>v", "u<|>v"]) ∧
    markedTwice.checkPipeline markedPipeline =
      .error (.materialsMismatch ["code", "u<|>v", "u<|>v"]) ∧
    markedTwice.checkPipeline { markedPipeline with materials := [⟨"n", .git, some "u<|>v"⟩] } =
      .ok () := by
  obtain ⟨htells, hsources⟩ := checkPipeline_tells
  have hmarked : markedCause.checkPipeline markedPipeline =
      .error (.materialsMismatch ["code", "u<|>v", "u<|>v"]) :=
    ((htells _ _ digestsTell_markedCause).2 _).mpr ⟨by decide, by decide, by decide⟩
  have hforth : markedTwice.CarriesAllOf markedCause := by decide
  have hback : markedCause.CarriesAllOf markedTwice := by decide
  have hone : markedCause.DigestsTell [⟨"n", .git, some "u<|>v"⟩] := by
    intro m hm r hr _
    rw [List.mem_singleton.mp hr, List.mem_singleton.mp hm]
    rfl
  refine ⟨hmarked, ((hsources _ _ _ hforth).1 hback).trans hmarked,
    (hsources _ _ _ hforth).2 (by decide) ((htells _ _ hone).1.mpr (.inr (by decide)))⟩

end StageRuns
