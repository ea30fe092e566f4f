/-
# Names of instances up to the case of letters

Two names that were made of the name of a job, a marker and an index are the same
up to the case of letters only if run type and index are equal and the names of
the jobs are the same up to case (`sameName_instanceName`). An instance of such a
name knows its job and its index (`JobInstance.baseName_of_name`).

Key definitions: `JobInstance.IndexFits`.
Key theorems: `sameName_instanceName`, `JobInstance.baseName_of_name`.
-/
import StageRuns.Proofs.NameParsing
import StageRuns.Text.LetterCase

namespace StageRuns
namespace Text

/-! ### Letter case -/

theorem sameName_trans {a b c : String} (hab : sameName a b = true) (hbc : sameName b c = true) :
    sameName a c = true := by
  rw [sameName_iff] at *
  exact hab.trans hbc

/-- Names that are the same compare alike with every name. -/
theorem sameName_congr {a b : String} (h : sameName a b = true) (c : String) :
    sameName a c = sameName b c := by
  rw [sameName_iff] at h
  rw [sameName, sameName, h]

theorem sameName_false_symm {a b : String} (h : sameName a b = false) : sameName b a = false := by
  rw [sameName_comm]
  exact h

theorem eq_empty_of_sameName {name : String} (h : sameName name "" = true) : name = "" := by
  rw [sameName_iff] at h
  have hlist := congrArg String.toList h
  simp [asciiLower] at hlist
  exact hlist

theorem asciiLower_append (a b : String) : asciiLower (a ++ b) = asciiLower a ++ asciiLower b := by
  simp [asciiLower, String.ofList_append]

theorem toLower_of_isDigit {c : Char} (h : c.isDigit = true) : c.toLower = c := by
  rw [Char.isDigit_iff_toNat] at h
  have h9 : '9'.toNat < 65 := by decide
  have hn : ¬ (65 ≤ c.val) := by
    rw [UInt32.le_iff_toNat_le]
    exact Nat.not_le.mpr (Nat.lt_of_le_of_lt h.2 h9)
  exact dif_neg fun hc => hn hc.1

theorem asciiLower_digitsOfNat (n : Nat) :
    asciiLower (String.ofList (digitsOfNat n)) = String.ofList (digitsOfNat n) := by
  rw [asciiLower, String.toList_ofList]
  congr 1
  refine (List.map_congr_left fun c hc => ?_).trans (List.map_id _)
  exact toLower_of_isDigit (isDigit_of_mem_digitsOfNat hc)

end Text

/-! ### Names of instances up to case -/

/-- What stands before the last dash, and the digits after it. -/
theorem append_dash_inj {x y ds es : List Char} (hd : '-' ∉ ds) (he : '-' ∉ es)
    (h : x ++ '-' :: ds = y ++ '-' :: es) : x = y ∧ ds = es := by
  have split : ∀ (z zs : List Char), '-' ∉ zs →
      InstanceName.splitLast? ['-'] (z ++ '-' :: zs) = some (z, zs) := by
    intro z zs hz
    have h0 : InstanceName.splitLast? ['-'] ('-' :: zs) = some ([], zs) := by
      rw [InstanceName.splitLast?, InstanceName.splitLast?_eq_none zs hz]
      simp [List.isPrefixOf]
    simpa using InstanceName.splitLast?_append h0 z
  have hs := split x ds hd
  rw [h, split y es he] at hs
  simpa [eq_comm] using hs

theorem asciiLower_instanceName (base : String) (runType : RunType) (k : Nat) :
    (Text.asciiLower (instanceName base runType k)).toList =
      (Text.asciiLower base).toList ++ (Text.asciiLower (marker runType)).toList ++
        Text.digitsOfNat k := by
  rw [instanceName, Text.asciiLower_append, Text.asciiLower_append, Text.asciiLower_digitsOfNat]
  simp

/-- The marker of an indexed run type in lower case, without its last dash. -/
def markerStem : RunType → List Char
  | .single => []
  | .runOnAllAgents => "-runonall".toList
  | .runMultipleInstance => "-runinstance".toList

theorem asciiLower_marker {runType : RunType} (hr : runType ≠ .single) :
    (Text.asciiLower (marker runType)).toList = markerStem runType ++ ['-'] := by
  cases runType with
  | single => exact absurd rfl hr
  | runOnAllAgents => decide
  | runMultipleInstance => decide

theorem append_markerStem_inj {r r' : RunType} (hr : r ≠ .single) (hr' : r' ≠ .single)
    {x y : List Char} (h : x ++ markerStem r = y ++ markerStem r') : r = r' ∧ x = y := by
  by_cases hrr : r = r'
  · subst hrr
    exact ⟨rfl, List.append_cancel_right h⟩
  · -- the stems end in different letters
    have hl : (markerStem .runOnAllAgents).getLast? = some 'l' := by decide
    have he : (markerStem .runMultipleInstance).getLast? = some 'e' := by decide
    have hlast := congrArg List.getLast? h
    rw [List.getLast?_append, List.getLast?_append] at hlast
    cases r <;> cases r' <;> first | contradiction | (rw [hl, he] at hlast; simp at hlast)

theorem instanceName_ne_empty (base : String) (runType : RunType) (k : Nat) :
    instanceName base runType k ≠ "" := by
  intro h
  have hl := congrArg String.toList h
  rw [InstanceName.toList_instanceName, String.toList_empty] at hl
  exact Text.digitsOfNat_ne_nil k (List.append_eq_nil_iff.mp hl).2

/-- Names with an index are the same up to case only if run type and index are
equal and the names of the jobs are the same. -/
theorem sameName_instanceName {b b' : String} {r r' : RunType} {k k' : Nat} (hr : r ≠ .single)
    (hr' : r' ≠ .single) (h : Text.sameName (instanceName b r k) (instanceName b' r' k') = true) :
    r = r' ∧ k = k' ∧ Text.sameName b b' = true := by
  rw [Text.sameName_iff, ← String.toList_inj, asciiLower_instanceName, asciiLower_instanceName,
    asciiLower_marker hr, asciiLower_marker hr'] at h
  have hd := append_dash_inj (x := (Text.asciiLower b).toList ++ markerStem r)
    (y := (Text.asciiLower b').toList ++ markerStem r') (Text.dash_notMem_digitsOfNat k)
    (Text.dash_notMem_digitsOfNat k') (by simpa using h)
  obtain ⟨hrr, hb⟩ := append_markerStem_inj hr hr' (by simpa using hd.1)
  refine ⟨hrr, Text.digitsOfNat_inj hd.2, ?_⟩
  rw [Text.sameName_iff]
  exact String.toList_injective hb

/-- Names of jobs that are the same give the same names with an index. -/
theorem sameName_instanceName_congr {b b' : String} (h : Text.sameName b b' = true) (r : RunType)
    (k : Nat) : Text.sameName (instanceName b r k) (instanceName b' r k) = true := by
  rw [Text.sameName_iff] at h ⊢
  rw [instanceName, instanceName, Text.asciiLower_append, Text.asciiLower_append, h,
    Text.asciiLower_append, Text.asciiLower_append]

/-! ### Instances that are named by index -/

namespace JobInstance

/-- An index in the name of the instance has 32 bits. -/
def IndexFits (job : JobInstance) : Prop :=
  ∀ base k, job.runType ≠ .single → job.name = instanceName base job.runType k →
    k < InstanceName.indexLimit

variable {job : JobInstance} {base : String} {k : Nat}

/-- There is just one index that a name was made with. -/
theorem indexFits_of_name (hr : job.runType ≠ .single)
    (hn : job.name = instanceName base job.runType k) (hk : k < InstanceName.indexLimit) :
    job.IndexFits := by
  intro b i _ hi
  have hsame : Text.sameName (instanceName base job.runType k) (instanceName b job.runType i) =
      true := by
    rw [← hn, ← hi]
    exact Text.sameName_self _
  obtain ⟨-, rfl, -⟩ := sameName_instanceName hr hr hsame
  exact hk

/-- A short name leaves room for nine digits at most. -/
theorem indexFits_of_length_le (h : job.name.length ≤ 19) : job.IndexFits := by
  intro b i hr hi
  have hmark : 10 ≤ (marker job.runType).length := by
    cases hj : job.runType with
    | single => exact absurd hj hr
    | runOnAllAgents => decide
    | runMultipleInstance => decide
  have hlen : job.name.length =
      b.length + (marker job.runType).length + (Text.digitsOfNat i).length := by
    rw [hi, instanceName, String.length_append, String.length_append, String.length_ofList]
  have hdigits : (Text.digitsOfNat i).length ≤ 9 := by omega
  have hlt : i < 10 ^ 9 := (Nat.length_toDigits_le_iff (by decide) (by decide)).mp hdigits
  exact hlt.trans (by decide)

theorem baseName_of_single (h : job.runType = .single) : job.baseName = job.name := by
  rw [baseName, h, InstanceName.parse_single]

theorem index?_of_single (h : job.runType = .single) : job.index? = none := by
  rw [index?, h, InstanceName.parse_single]

/-- The index of an instance, or 1 if it has none, has 32 bits. -/
theorem index?_getD_lt (job : JobInstance) : job.index?.getD 1 < InstanceName.indexLimit := by
  rw [index?]
  rcases InstanceName.parse_cases job.name job.runType with h | ⟨base, digits, k, h, hindexed⟩
  · rw [h]
    show 1 < InstanceName.indexLimit
    decide
  · rw [h]
    exact hindexed.index_lt

/-- Only an empty name has an empty base. -/
theorem name_eq_empty (h : job.baseName = "") : job.name = "" := by
  rw [baseName] at h
  rcases InstanceName.parse_cases job.name job.runType with
    hp | ⟨base, digits, k, hp, hindexed⟩
  · rwa [hp] at h
  · rw [hp] at h
    exact absurd h hindexed.base_ne_empty

/-- An index is read behind the name of a job, which is not empty. -/
theorem baseName_ne_empty (h : job.index? = some k) : job.baseName ≠ "" := by
  rw [index?] at h
  rw [baseName]
  rcases InstanceName.parse_cases job.name job.runType with
    hp | ⟨base, digits, i, hp, hindexed⟩
  · rw [hp] at h
    cases h
  · rw [hp]
    exact hindexed.base_ne_empty

/-- An instance that is named by index knows its job and its index. -/
theorem baseName_of_name (hb : base ≠ "") (hr : job.runType ≠ .single)
    (hn : job.name = instanceName base job.runType k) (hk : k < InstanceName.indexLimit) :
    job.baseName = base ∧ job.index? = some k := by
  rw [baseName, index?, hn, InstanceName.parse_instanceName hb hr hk]
  exact ⟨rfl, rfl⟩

end JobInstance
end StageRuns
