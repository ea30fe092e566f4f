/-
# Names with an index, made and read

A name is split at the last occurrence of a marker (`InstanceName.splitLast?_eq_some_iff`).
It is read as the name of a job with an index exactly if the parts are a name that is not
empty and digits of a number of 32 bits; otherwise it is the name of a job as a whole
(`InstanceName.parse_eq_indexed_iff`, `InstanceName.parse_eq_whole_iff`).

No marker begins inside a marker that digits follow. So a name that was made of the name
of a job, a marker and an index is taken apart into just these again, whatever the name of
the job holds (`InstanceName.parse_instanceName`), and so are the names of a numbering
(`Numbering.map_parse_take`). A name that was read is made again exactly if its digits
have no spare zero (`InstanceName.IsIndexed.instanceName_eq_iff`).

Key definitions: `InstanceName.IsLastSplit`, `InstanceName.IsIndexed`.
Key theorems: `InstanceName.splitLast?_eq_some_iff`, `InstanceName.parse_eq_indexed_iff`,
`InstanceName.parse_eq_whole_iff`, `InstanceName.parse_instanceName`,
`Numbering.take_eq`, `InstanceName.parse_inverse`.
-/
import StageRuns.InstanceName
import StageRuns.Proofs.Digits
import Mathlib.Data.List.Infix
import Mathlib.Data.List.Nodup

namespace StageRuns
namespace InstanceName

/-! ### The last marker -/

/-- The parts stand before and after the last occurrence of the marker. -/
structure IsLastSplit (mark cs before after : List Char) : Prop where
  eq_append : cs = before ++ mark ++ after
  last : ∀ earlier rest, cs = earlier ++ mark ++ rest → earlier.length ≤ before.length

variable {mark cs before after : List Char}

theorem IsLastSplit.cons (h : IsLastSplit mark cs before after) (c : Char) :
    IsLastSplit mark (c :: cs) (c :: before) after where
  eq_append := by rw [h.eq_append]; rfl
  last
    | [], _, _ => Nat.zero_le _
    | _ :: earlier, rest, heq => Nat.succ_le_succ (h.last earlier rest (List.cons.inj heq).2)

theorem IsLastSplit.unique {before' after' : List Char} (h : IsLastSplit mark cs before after)
    (h' : IsLastSplit mark cs before' after') : before = before' ∧ after = after' := by
  have hlength : before.length = before'.length :=
    Nat.le_antisymm (h'.last _ _ h.eq_append) (h.last _ _ h'.eq_append)
  have heq := h.eq_append.symm.trans h'.eq_append
  rw [List.append_assoc, List.append_assoc] at heq
  obtain ⟨hbefore, hrest⟩ := List.append_inj heq hlength
  exact ⟨hbefore, List.append_cancel_left hrest⟩

/-- Either there is no marker, or the text is split at the last one. -/
theorem splitLast?_cases (mark : List Char) : ∀ cs : List Char,
    splitLast? mark cs = none ∧ ¬ mark <:+: cs ∨
      ∃ before after, splitLast? mark cs = some (before, after) ∧
        IsLastSplit mark cs before after
  | [] => by
    cases mark with
    | nil => exact .inr ⟨[], [], rfl, rfl, fun earlier rest h => by simp_all⟩
    | cons m mark => exact .inl ⟨rfl, by simp⟩
  | c :: cs => by
    rcases splitLast?_cases mark cs with ⟨hnone, hno⟩ | ⟨before, after, hsome, hsplit⟩
    · by_cases hprefix : mark <+: c :: cs
      · refine .inr ⟨[], (c :: cs).drop mark.length, ?_, ?_, ?_⟩
        · rw [splitLast?, hnone]
          exact if_pos (List.isPrefixOf_iff_prefix.mpr hprefix)
        · exact List.prefix_iff_eq_append.mp hprefix |>.symm
        · rintro (_ | ⟨e, earlier⟩) rest heq
          · exact Nat.le_refl 0
          · exact absurd ⟨earlier, rest, (List.cons.inj heq).2.symm⟩ hno
      · refine .inl ⟨?_, fun hinfix => ?_⟩
        · rw [splitLast?, hnone]
          exact if_neg (mt List.isPrefixOf_iff_prefix.mp hprefix)
        · exact (List.infix_cons_iff.mp hinfix).elim hprefix hno
    · exact .inr ⟨c :: before, after, by rw [splitLast?, hsome], hsplit.cons c⟩

theorem splitLast?_eq_some_iff :
    splitLast? mark cs = some (before, after) ↔ IsLastSplit mark cs before after := by
  rcases splitLast?_cases mark cs with ⟨hnone, hno⟩ | ⟨before', after', hsome, hsplit⟩
  · rw [hnone]
    exact ⟨nofun, fun h => absurd ⟨before, after, h.eq_append.symm⟩ hno⟩
  · rw [hsome, Option.some_inj, Prod.mk.injEq]
    exact ⟨fun ⟨hbefore, hafter⟩ => hbefore ▸ hafter ▸ hsplit, hsplit.unique⟩

theorem splitLast?_append {p : List Char × List Char} (h : splitLast? mark cs = some p) :
    ∀ base : List Char, splitLast? mark (base ++ cs) = some (base ++ p.1, p.2)
  | [] => h
  | b :: base => by rw [List.cons_append, splitLast?, splitLast?_append h base]; rfl

/-- A text in which the first character of the marker does not occur has no
marker. -/
theorem splitLast?_eq_none {m : Char} {mark : List Char} : ∀ cs : List Char, m ∉ cs →
    splitLast? (m :: mark) cs = none
  | [], _ => rfl
  | c :: cs, h => by
    have hc : m ≠ c := fun e => h (e ▸ List.mem_cons_self)
    rw [splitLast?, splitLast?_eq_none cs fun hm => h (List.mem_cons_of_mem _ hm)]
    simp [List.isPrefixOf, hc]

theorem splitLast?_append_eq_none {m : Char} {mark cs : List Char}
    (h : splitLast? (m :: mark) cs = none) : ∀ before : List Char, m ∉ before →
      splitLast? (m :: mark) (before ++ cs) = none
  | [], _ => h
  | b :: before, hb => by
    have hc : m ≠ b := fun e => hb (e ▸ List.mem_cons_self)
    have ih := splitLast?_append_eq_none h before fun hm => hb (List.mem_cons_of_mem _ hm)
    rw [List.cons_append, splitLast?, ih]
    simp [List.isPrefixOf, hc]

/-- A marker that consists of a dash, letters and another dash begins only at
its first dash when digits follow it. -/
theorem splitLast?_dashed {c : Char} {ds : List Char} (body : List Char) (hc : c.isDigit = false)
    (hb : '-' ∉ c :: body) (hds : ∀ d ∈ ds, d.isDigit = true) :
    splitLast? ('-' :: c :: body ++ ['-']) ('-' :: c :: body ++ ['-'] ++ ds) = some ([], ds) := by
  have hdash : '-' ∉ ds := fun h => Text.isDigit_ne_dash (hds _ h) rfl
  -- from the second dash on, the character after it tells that no marker begins
  have hlast : splitLast? ('-' :: c :: body ++ ['-']) ('-' :: ds) = none := by
    rw [splitLast?, List.cons_append, splitLast?_eq_none ds hdash]
    cases ds with
    | nil => rfl
    | cons d ds =>
      have hd : c ≠ d := fun e => by simp [e, hds d List.mem_cons_self] at hc
      simp [List.isPrefixOf, hd]
  have hrest : splitLast? ('-' :: c :: body ++ ['-']) (c :: body ++ ['-'] ++ ds) = none := by
    rw [List.append_assoc]
    exact splitLast?_append_eq_none hlast _ hb
  have hstart : ('-' :: c :: body ++ ['-']).isPrefixOf ('-' :: c :: body ++ ['-'] ++ ds) = true :=
    List.isPrefixOf_iff_prefix.mpr (List.prefix_append _ _)
  have hsplit : '-' :: c :: body ++ ['-'] ++ ds = '-' :: (c :: body ++ ['-'] ++ ds) := rfl
  rw [hsplit, splitLast?, hrest, ← hsplit]
  simp only [hstart, ↓reduceIte]
  rw [List.drop_left]

theorem splitLast?_marker {runType : RunType} (hr : runType ≠ .single) {ds : List Char}
    (hds : ∀ d ∈ ds, d.isDigit = true) :
    splitLast? (marker runType).toList ((marker runType).toList ++ ds) = some ([], ds) := by
  cases runType with
  | single => exact absurd rfl hr
  | runOnAllAgents => exact splitLast?_dashed "unOnAll".toList (by decide) (by decide) hds
  | runMultipleInstance =>
    exact splitLast?_dashed "unInstance".toList (by decide) (by decide) hds

/-- A marker that digits follow is the last one, whatever stands before it. -/
theorem isLastSplit_marker {runType : RunType} (hr : runType ≠ .single) (before : List Char)
    {ds : List Char} (hds : ∀ d ∈ ds, d.isDigit = true) :
    IsLastSplit (marker runType).toList (before ++ (marker runType).toList ++ ds) before ds := by
  have hsplit := splitLast?_append (splitLast?_marker hr hds) before
  rw [List.append_nil, ← List.append_assoc] at hsplit
  exact splitLast?_eq_some_iff.mp hsplit

/-! ### Names that are read with an index -/

variable {name base : String} {runType : RunType} {digits : List Char} {k : Nat}

/-- The name consists of the name of a job, which is not empty, the last marker of the run
type in it, and digits that write an index of 32 bits. -/
structure IsIndexed (name : String) (runType : RunType) (base : String) (digits : List Char)
    (index : Nat) : Prop where
  runsOften : runType ≠ .single
  base_ne_empty : base ≠ ""
  isLastSplit : IsLastSplit (marker runType).toList name.toList base.toList digits
  digits_ne_nil : digits ≠ []
  isDigit : ∀ d ∈ digits, d.isDigit = true
  value_eq : Nat.ofDigitChars 10 digits 0 = index
  index_lt : index < indexLimit

theorem index?_eq_some_iff : index? digits = some k ↔
    digits ≠ [] ∧ (∀ d ∈ digits, d.isDigit = true) ∧ Nat.ofDigitChars 10 digits 0 = k ∧
      k < indexLimit := by
  rw [index?, Option.filter_eq_some_iff, Text.natOfDigits?_eq_some_iff, decide_eq_true_eq,
    and_assoc, and_assoc]

theorem marker?_eq (hr : runType ≠ .single) : marker? runType = some (marker runType) := by
  cases runType with
  | single => exact absurd rfl hr
  | runOnAllAgents => rfl
  | runMultipleInstance => rfl

theorem parse_single (name : String) : parse name .single = ⟨name, none⟩ := rfl

/-- A name is what it is taken for as a whole, or it is one with an index. -/
theorem parse_cases (name : String) (runType : RunType) :
    parse name runType = ⟨name, none⟩ ∨
      ∃ base digits k, parse name runType = ⟨base, some k⟩ ∧
        IsIndexed name runType base digits k := by
  by_cases hr : runType = .single
  · exact .inl (by rw [hr, parse_single])
  · rw [parse, marker?_eq hr, Option.bind_some]
    cases hs : split? (marker runType) name with
    | none => exact .inl rfl
    | some parts =>
      unfold split? at hs
      split at hs
      case h_1 c before after hsplit =>
        obtain ⟨k, hk, rfl⟩ := Option.map_eq_some_iff.mp hs
        obtain ⟨hne, hdigits, hvalue, hlt⟩ := index?_eq_some_iff.mp hk
        have hbase : String.ofList (c :: before) ≠ "" := fun he => by
          have := congrArg String.toList he
          simp at this
        refine .inr ⟨_, after, k, rfl, hr, hbase, ?_, hne, hdigits, hvalue, hlt⟩
        rw [String.toList_ofList]
        exact splitLast?_eq_some_iff.mp hsplit
      case h_2 => cases hs

/-- A name with an index is read as such. -/
theorem IsIndexed.parse_eq (h : IsIndexed name runType base digits k) :
    parse name runType = ⟨base, some k⟩ := by
  obtain ⟨c, cs, hcs⟩ : ∃ c cs, base.toList = c :: cs :=
    List.exists_cons_of_ne_nil fun hnil => h.base_ne_empty (String.toList_injective hnil)
  have hindex : index? digits = some k :=
    index?_eq_some_iff.mpr ⟨h.digits_ne_nil, h.isDigit, h.value_eq, h.index_lt⟩
  have hsplit : split? (marker runType) name = some ⟨base, some k⟩ := by
    rw [split?, splitLast?_eq_some_iff.mpr h.isLastSplit, hcs]
    simp only [hindex, Option.map_some, ← hcs, String.ofList_toList]
  rw [parse, marker?_eq h.runsOften, Option.bind_some, hsplit, Option.getD_some]

theorem parse_eq_indexed_iff :
    parse name runType = ⟨base, some k⟩ ↔ ∃ digits, IsIndexed name runType base digits k := by
  refine ⟨fun h => ?_, fun ⟨_, h⟩ => h.parse_eq⟩
  rcases parse_cases name runType with hwhole | ⟨base', digits, k', hp, hindexed⟩
  · rw [hwhole] at h
    cases h
  · rw [hp] at h
    cases h
    exact ⟨digits, hindexed⟩

theorem parse_eq_whole_iff : parse name runType = ⟨base, none⟩ ↔
    base = name ∧ ∀ base digits k, ¬ IsIndexed name runType base digits k := by
  rcases parse_cases name runType with hwhole | ⟨base', digits, k', hp, hindexed⟩
  · refine ⟨fun h => ?_, fun h => by rw [hwhole, h.1]⟩
    rw [hwhole] at h
    cases h
    refine ⟨rfl, fun _ _ _ hindexed => ?_⟩
    have hp := hindexed.parse_eq
    rw [hwhole] at hp
    cases hp
  · refine ⟨fun h => ?_, fun h => absurd hindexed (h.2 _ _ _)⟩
    rw [hp] at h
    cases h

/-! ### Names that are made with an index -/

theorem toList_instanceName (base : String) (runType : RunType) (k : Nat) :
    (instanceName base runType k).toList =
      base.toList ++ (marker runType).toList ++ Text.digitsOfNat k := by
  simp [instanceName]

theorem isLastSplit_instanceName (hr : runType ≠ .single) (base : String) (k : Nat) :
    IsLastSplit (marker runType).toList (instanceName base runType k).toList base.toList
      (Text.digitsOfNat k) := by
  rw [toList_instanceName]
  exact isLastSplit_marker hr base.toList fun _ => Text.isDigit_of_mem_digitsOfNat

theorem isIndexed_instanceName (hb : base ≠ "") (hr : runType ≠ .single) (hk : k < indexLimit) :
    IsIndexed (instanceName base runType k) runType base (Text.digitsOfNat k) k where
  runsOften := hr
  base_ne_empty := hb
  isLastSplit := isLastSplit_instanceName hr base k
  digits_ne_nil := Text.digitsOfNat_ne_nil k
  isDigit := fun _ => Text.isDigit_of_mem_digitsOfNat
  value_eq := Nat.ofDigitChars_ten_toDigits
  index_lt := hk

/-- A name that was made of the name of a job and an index is taken apart into
these. -/
theorem parse_instanceName (hb : base ≠ "") (hr : runType ≠ .single) (hk : k < indexLimit) :
    parse (instanceName base runType k) runType = ⟨base, some k⟩ :=
  (isIndexed_instanceName hb hr hk).parse_eq

/-- No other index is read from such a name, whatever the name of the job is. -/
theorem eq_of_index_parse {n : Nat} (hr : runType ≠ .single)
    (h : (parse (instanceName base runType k) runType).index = some n) : n = k := by
  rcases parse_cases (instanceName base runType k) runType with
    hwhole | ⟨base', digits, k', hp, hindexed⟩
  · rw [hwhole] at h
    cases h
  · rw [hp] at h
    cases h
    have hdigits := (hindexed.isLastSplit.unique (isLastSplit_instanceName hr base k)).2
    rw [← hindexed.value_eq, hdigits]
    exact Nat.ofDigitChars_ten_toDigits

theorem instanceName_inj {n : Nat} (h : instanceName base runType k = instanceName base runType n) :
    k = n := by
  have hl := congrArg String.toList h
  rw [toList_instanceName, toList_instanceName] at hl
  exact Text.digitsOfNat_inj (List.append_cancel_left hl)

/-- A name that was read is made again exactly if its digits have no spare zero. -/
theorem IsIndexed.instanceName_eq_iff (h : IsIndexed name runType base digits k) :
    instanceName base runType k = name ↔ ¬ Text.HasSpareZero digits := by
  rw [← Text.digitsOfNat_ofDigitChars_iff h.digits_ne_nil h.isDigit, h.value_eq,
    ← String.toList_inj, toList_instanceName, h.isLastSplit.eq_append, List.append_cancel_left_eq]

end InstanceName

/-! ### Numberings -/

namespace Numbering

/-- The names have the indices that follow the last one, without a gap. -/
theorem take_eq : ∀ (count : Nat) (n : Numbering), n.take count =
    ((List.range' 1 count).map fun i => instanceName n.base n.runType (n.last + i),
      { n with last := n.last + count })
  | 0, _ => rfl
  | count + 1, n => by
    have hindices : (List.range' 1 count).map (fun i => n.last + 1 + i) =
        (List.range' 2 count).map fun i => n.last + i := by
      rw [List.map_add_range', List.map_add_range']
    have hnames : (List.range' 1 count).map
        (fun i => instanceName n.base n.runType (n.last + 1 + i)) =
          (List.range' 2 count).map fun i => instanceName n.base n.runType (n.last + i) := by
      have := congrArg (List.map (instanceName n.base n.runType)) hindices
      rwa [List.map_map, List.map_map] at this
    rw [take, next]
    simp only [take_eq count, hnames, List.range'_succ, List.map_cons]
    rw [Nat.add_right_comm, Nat.add_assoc]

/-- The names of a numbering differ. -/
theorem nodup_take (n : Numbering) (count : Nat) : (n.take count).1.Nodup := by
  rw [take_eq]
  refine List.Nodup.map (fun i j h => ?_) (List.nodup_range' 1)
  exact Nat.add_left_cancel (InstanceName.instanceName_inj h)

/-- Each name of a numbering is taken apart into the name of the job and its index. -/
theorem map_parse_take {base : String} {runType : RunType} {last count : Nat} (hb : base ≠ "")
    (hr : runType ≠ .single) (h : last + count < InstanceName.indexLimit) :
    ((take ⟨base, runType, last⟩ count).1.map fun name => InstanceName.parse name runType) =
      (List.range' 1 count).map fun i => ⟨base, some (last + i)⟩ := by
  rw [take_eq, List.map_map]
  refine List.map_congr_left fun i hi => ?_
  have hle : i < 1 + count := (List.mem_range'_1.mp hi).2
  have hlt : last + i < InstanceName.indexLimit := by omega
  exact InstanceName.parse_instanceName hb hr hlt

end Numbering

/-! ### Both ways -/

namespace InstanceName

/-- A name that is made of the name of a job and an index is read as these, and so is each
name of a numbering, whose names differ. A name is read with an index exactly if it is one
with this index, else as a whole, and it is made again exactly if its digits have no spare
zero. -/
theorem parse_inverse :
    (∀ (base : String) (runType : RunType), runType ≠ .single →
      (base ≠ "" → ∀ k < indexLimit,
        parse (instanceName base runType k) runType = ⟨base, some k⟩) ∧
      ∀ last count : Nat,
        (base ≠ "" → last + count < indexLimit →
          ((Numbering.take ⟨base, runType, last⟩ count).1.map fun name => parse name runType) =
            (List.range' 1 count).map fun n => ⟨base, some (last + n)⟩) ∧
        (Numbering.take ⟨base, runType, last⟩ count).1.Nodup) ∧
    ∀ (name : String) (runType : RunType) (base : String),
      (∀ k, parse name runType = ⟨base, some k⟩ ↔
        ∃ digits, IsIndexed name runType base digits k) ∧
      (parse name runType = ⟨base, none⟩ ↔
        base = name ∧ ∀ base digits k, ¬ IsIndexed name runType base digits k) ∧
      ∀ digits k, IsIndexed name runType base digits k →
        (instanceName base runType k = name ↔ ¬ Text.HasSpareZero digits) := by
  constructor
  · intro base runType hr
    refine ⟨fun hb k hk => parse_instanceName hb hr hk, fun last count => ⟨fun hb hlast => ?_, ?_⟩⟩
    · exact Numbering.map_parse_take hb hr hlast
    · exact Numbering.nodup_take _ count
  · intro name runType base
    exact ⟨fun k => parse_eq_indexed_iff, parse_eq_whole_iff, fun digits k h =>
      h.instanceName_eq_iff⟩

/-- A name that ends in most of a marker, so that the marker that is put behind it overlaps. -/
def overlapping : String := "x-runOnAll"

/-- The index with zeros in front that stands behind it. -/
theorem isIndexed_overlapping :
    IsIndexed "x-runOnAll-runOnAll-007" .runOnAllAgents overlapping ['0', '0', '7'] 7 where
  runsOften := nofun
  base_ne_empty := by decide
  isLastSplit := by
    have hr : RunType.runOnAllAgents ≠ .single := nofun
    have hdigits : ∀ d ∈ ['0', '0', '7'], d.isDigit = true := by simp
    exact isLastSplit_marker hr overlapping.toList hdigits
  digits_ne_nil := nofun
  isDigit := by simp
  value_eq := rfl
  index_lt := by decide

/-- The greatest index is read back from behind such a name, and the names of a numbering are.
A number that is too great makes no index, and one with zeros in front is not made again. -/
theorem parse_inverse_overlapping :
    parse (instanceName overlapping .runOnAllAgents 0xffffffff) .runOnAllAgents =
      ⟨overlapping, some 0xffffffff⟩ ∧
    ((Numbering.take ⟨overlapping, .runOnAllAgents, 9⟩ 2).1.map
      fun name => parse name .runOnAllAgents) = [⟨overlapping, some 10⟩, ⟨overlapping, some 11⟩] ∧
    (Numbering.take ⟨overlapping, .runOnAllAgents, 9⟩ 2).1.Nodup ∧
    (∃ digits, IsIndexed "x-runOnAll-runOnAll-007" .runOnAllAgents overlapping digits 7) ∧
    (∀ base digits k, ¬ IsIndexed "x-runOnAll-4294967296" .runOnAllAgents base digits k) ∧
    instanceName overlapping .runOnAllAgents 7 ≠ "x-runOnAll-runOnAll-007" := by
  obtain ⟨hmade, hread⟩ := parse_inverse
  obtain ⟨hback, hnumbered⟩ := hmade overlapping .runOnAllAgents nofun
  obtain ⟨hindexed, -, hagain⟩ := hread "x-runOnAll-runOnAll-007" .runOnAllAgents overlapping
  obtain ⟨-, hwhole, -⟩ := hread "x-runOnAll-4294967296" .runOnAllAgents "x-runOnAll-4294967296"
  refine ⟨hback (by decide) _ (by decide), (hnumbered 9 2).1 (by decide) (by decide),
    (hnumbered 9 2).2, (hindexed 7).mp (by decide +kernel), (hwhole.mp (by decide +kernel)).2, ?_⟩
  exact mt (hagain _ _ isIndexed_overlapping).mp fun h => h ⟨'0', ['7'], rfl⟩

end InstanceName
end StageRuns
