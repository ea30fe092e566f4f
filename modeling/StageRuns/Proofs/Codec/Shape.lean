/-
# Documents that say a value

A document says a written value if it is its document, up to changes that a reader of
records does not see (`Says`): parts may stand in any order, parts that say their default
may be missing, and there may be members that no part is named after. A shape tells where
the records of a value are, what parts they declare and which defaults these have.

A reader that reads the value from every document that says it (`Reads`) is put together
from readers of its parts (`reads_record`, `reads_list`, `Record.Has.required` and the
lemmas beside it).

Key definitions: `Shape`, `Says`, `Reads`, `Record.Has`.
Key theorems: `Record.collect_eq`, `Says.exists_record`, `reads_record`, `reads_list`.
-/
import Mathlib.Data.List.Nodup
import StageRuns.Codec.Record

namespace StageRuns

/-- The make of a written value. A record declares its parts in order, each with the
written form of its default, if it has one. What has no records inside, or none that may
change, is a leaf. -/
inductive Shape where
  | leaf
  | list (item : Shape)
  | record (parts : List (String × Option Json × Shape))

mutual

/-- The document says the value: unchanged, or with other documents that say its items or
parts. Members of other names may be added to a record, in any order. -/
inductive Says : Shape → Json → Document → Prop
  | unchanged {shape : Shape} {j : Json} : Says shape j (.ofJson j)
  | list {item : Shape} {items : List Json} {documents : List Document} :
      SaysItems item items documents → Says (.list item) (.array items) (.array documents)
  | record {parts : List (String × Option Json × Shape)} {members : List (String × Json)}
      {kept others entries : List (String × Document)} :
      SaysParts parts members kept → (∀ e ∈ others, e.1 ∉ parts.map (·.1)) →
        List.Perm entries (kept ++ others) →
          Says (.record parts) (.object members) (.object (entries.map fun e => (.text e.1, e.2)))

/-- The documents say the items, one by one. -/
inductive SaysItems : Shape → List Json → List Document → Prop
  | nil {item : Shape} : SaysItems item [] []
  | cons {item : Shape} {j : Json} {js : List Json} {d : Document} {ds : List Document} :
      Says item j d → SaysItems item js ds → SaysItems item (j :: js) (d :: ds)

/-- The named documents say the members that are the declared parts. A part that is its
default may be left out. -/
inductive SaysParts : List (String × Option Json × Shape) → List (String × Json) →
    List (String × Document) → Prop
  | nil : SaysParts [] [] []
  | kept {name : String} {default : Option Json} {shape : Shape} {j : Json} {d : Document}
      {parts : List (String × Option Json × Shape)} {members : List (String × Json)}
      {kept : List (String × Document)} : Says shape j d → SaysParts parts members kept →
        SaysParts ((name, default, shape) :: parts) ((name, j) :: members) ((name, d) :: kept)
  | dropped {name : String} {shape : Shape} {j : Json}
      {parts : List (String × Option Json × Shape)} {members : List (String × Json)}
      {kept : List (String × Document)} : SaysParts parts members kept →
        SaysParts ((name, some j, shape) :: parts) ((name, j) :: members) kept

end

/-! ### Unchanged documents -/

theorem saysItems_unchanged (item : Shape) : ∀ items : List Json,
    SaysItems item items (Document.ofItems items)
  | [] => .nil
  | _ :: items => .cons .unchanged (saysItems_unchanged item items)

/-- The members of a document under their names. -/
def namedMembers (members : List (String × Json)) : List (String × Document) :=
  members.map fun m => (m.1, .ofJson m.2)

theorem ofMembers_eq : ∀ members : List (String × Json),
    Document.ofMembers members = (namedMembers members).map fun e => (.text e.1, e.2)
  | [] => rfl
  | (key, value) :: members => by
    rw [Document.ofMembers, ofMembers_eq members]
    rfl

theorem saysParts_unchanged : ∀ {parts : List (String × Option Json × Shape)}
    {members : List (String × Json)}, members.map (·.1) = parts.map (·.1) →
      SaysParts parts members (namedMembers members)
  | [], [], _ => .nil
  | (name, default, shape) :: parts, (key, j) :: members, h => by
    rw [List.map_cons, List.map_cons, List.cons.injEq] at h
    obtain ⟨hkey, hrest⟩ := h
    cases hkey
    exact .kept .unchanged (saysParts_unchanged hrest)

/-! ### The parts of a record -/

namespace Record

/-- The parts under their names, without their places. -/
def named (r : Record) : List (String × Document) := r.parts.map fun p => (p.1, p.2.2)

/-- The document of a part. -/
def part? (r : Record) (name : String) : Option Document :=
  (r.parts.find? fun p => p.1 == name).map (·.2.2)

variable {r : Record} {name : String} {d : Document}

theorem part?_eq_none (h : name ∉ r.named.map (·.1)) : r.part? name = none := by
  rw [part?, Option.map_eq_none_iff, List.find?_eq_none]
  intro p hp heq
  refine h (List.mem_map.mpr ⟨(p.1, p.2.2), List.mem_map_of_mem hp, ?_⟩)
  exact eq_of_beq heq

theorem find?_eq_some_of_nodup {p : String × Nat × Document} :
    ∀ {parts : List (String × Nat × Document)}, (parts.map (·.1)).Nodup → p ∈ parts →
      parts.find? (fun q => q.1 == p.1) = some p
  | q :: parts, hnodup, h => by
    obtain ⟨hq, hparts⟩ := List.nodup_cons.mp hnodup
    rcases List.mem_cons.mp h with rfl | h
    · exact List.find?_cons_of_pos (beq_self_eq_true _)
    · have hne : (q.1 == p.1) = false :=
        beq_false_of_ne fun heq => hq (List.mem_map.mpr ⟨p, h, heq.symm⟩)
      rw [List.find?_cons, hne]
      exact find?_eq_some_of_nodup hparts h

theorem part?_eq_some (hnodup : (r.named.map (·.1)).Nodup) (h : (name, d) ∈ r.named) :
    r.part? name = some d := by
  obtain ⟨p, hp, heq⟩ := List.mem_map.mp h
  cases heq
  rw [named, List.map_map] at hnodup
  rw [part?, find?_eq_some_of_nodup hnodup hp, Option.map_some]

/-- The parts that are collected are the members of declared names, if none of these is
there twice. -/
theorem collect_eq {names : List String} : ∀ {entries : List (String × Document)}
    {seen : List String} (place : Nat),
    ((entries.filter fun e => names.contains e.1).map (·.1)).Nodup →
      (∀ e ∈ entries, names.contains e.1 = true → seen.contains e.1 = false) →
        ((collect names seen place (entries.map fun e => (.text e.1, e.2))).1.map
            fun p => (p.1, p.2.2)) = entries.filter (fun e => names.contains e.1) ∧
          (collect names seen place (entries.map fun e => (.text e.1, e.2))).2 = none
  | [], _, _, _, _ => ⟨rfl, rfl⟩
  | (key, value) :: entries, seen, place, hnodup, hseen => by
    obtain ⟨hkey, hrest⟩ := List.forall_mem_cons.mp hseen
    have hname : Document.name? (.text key) = some key := rfl
    rw [List.map_cons, collect, hname]
    by_cases hdeclared : names.contains key = true
    · rw [List.filter_cons, if_pos hdeclared, List.map_cons] at hnodup
      obtain ⟨hfresh, hnodup⟩ := List.nodup_cons.mp hnodup
      have hseen : ∀ e ∈ entries, names.contains e.1 = true →
          (key :: seen).contains e.1 = false := by
        intro e he hdecl
        have hne : e.1 ≠ key := fun heq =>
          hfresh (List.mem_map.mpr ⟨e, List.mem_filter.mpr ⟨he, hdecl⟩, heq⟩)
        rw [List.contains_cons, hrest e he hdecl, Bool.or_false]
        exact beq_false_of_ne hne
      obtain ⟨hparts, hplace⟩ := collect_eq (place + 1) hnodup hseen
      rw [List.filter_cons, if_pos hdeclared]
      simp only [hdeclared, hkey hdeclared, if_true, Bool.false_eq_true, if_false, List.map_cons,
        hparts, hplace, and_self]
    · rw [List.filter_cons, if_neg hdeclared] at hnodup ⊢
      simp only [hdeclared, Bool.false_eq_true, if_false]
      exact collect_eq (place + 1) hnodup hrest

/-- The record has a part that says the value, or it has no such part and the value is the
default. -/
def Has (r : Record) (name : String) (default : Option Json) (shape : Shape) (j : Json) : Prop :=
  (∃ d, r.part? name = some d ∧ Says shape j d) ∨ (r.part? name = none ∧ default = some j)

/-- The record has the members for its declared parts. -/
def HasAll (r : Record) : List (String × Option Json × Shape) → List (String × Json) → Prop
  | (name, default, shape) :: parts, (_, j) :: members =>
    r.Has name default shape j ∧ r.HasAll parts members
  | _, _ => True

theorem mem_names_of_saysParts {name : String} : ∀ {parts : List (String × Option Json × Shape)}
    {members : List (String × Json)} {kept : List (String × Document)},
    SaysParts parts members kept → name ∈ kept.map (·.1) → name ∈ parts.map (·.1)
  | _, _, _, .nil, h => h
  | _, _, _, .kept _ hrest, h => by
    rw [List.map_cons] at h ⊢
    exact (List.mem_cons.mp h).elim (fun h => h ▸ List.mem_cons_self)
      fun h => List.mem_cons_of_mem _ (mem_names_of_saysParts hrest h)
  | _, _, _, .dropped hrest, h => List.mem_cons_of_mem _ (mem_names_of_saysParts hrest h)

theorem nodup_of_saysParts : ∀ {parts : List (String × Option Json × Shape)}
    {members : List (String × Json)} {kept : List (String × Document)},
    SaysParts parts members kept → (parts.map (·.1)).Nodup → (kept.map (·.1)).Nodup
  | _, _, _, .nil, _ => .nil
  | _, _, _, .kept _ hrest, h => by
    obtain ⟨hfresh, hnodup⟩ := List.nodup_cons.mp h
    exact List.nodup_cons.mpr ⟨fun hmem => hfresh (mem_names_of_saysParts hrest hmem),
      nodup_of_saysParts hrest hnodup⟩
  | _, _, _, .dropped hrest, h => nodup_of_saysParts hrest (List.nodup_cons.mp h).2

theorem hasAll_of_saysParts : ∀ {parts : List (String × Option Json × Shape)}
    {members : List (String × Json)} {kept : List (String × Document)},
    SaysParts parts members kept → (parts.map (·.1)).Nodup →
      (∀ e ∈ kept, r.part? e.1 = some e.2) →
        (∀ name ∈ parts.map (·.1), name ∉ kept.map (·.1) → r.part? name = none) →
          r.HasAll parts members
  | _, _, _, .nil, _, _, _ => trivial
  | _, _, _, .kept hsaid hrest, hnodup, hkept, hnone => by
    obtain ⟨hfresh, hnodup⟩ := List.nodup_cons.mp hnodup
    obtain ⟨hfirst, hkept⟩ := List.forall_mem_cons.mp hkept
    refine ⟨.inl ⟨_, hfirst, hsaid⟩,
      hasAll_of_saysParts hrest hnodup hkept fun name hname hmem => ?_⟩
    refine hnone name (List.mem_cons_of_mem _ hname) fun h => ?_
    rcases List.mem_cons.mp h with rfl | h
    · exact hfresh hname
    · exact hmem h
  | _, _, _, .dropped hrest, hnodup, hkept, hnone => by
    obtain ⟨hfresh, hnodup⟩ := List.nodup_cons.mp hnodup
    refine ⟨.inr ⟨hnone _ List.mem_cons_self fun h => hfresh (mem_names_of_saysParts hrest h), rfl⟩,
      hasAll_of_saysParts hrest hnodup hkept fun name hname =>
        hnone name (List.mem_cons_of_mem _ hname)⟩

end Record

variable {parts : List (String × Option Json × Shape)} {members : List (String × Json)}
  {d : Document}

/-- An object with the kept parts among its members has all declared parts. -/
theorem SaysParts.exists_record {kept others entries : List (String × Document)}
    (h : SaysParts parts members kept) (hothers : ∀ e ∈ others, e.1 ∉ parts.map (·.1))
    (hperm : entries.Perm (kept ++ others)) (hnodup : (parts.map (·.1)).Nodup) :
    ∃ r, Record.ofDocument? (parts.map (·.1)) (.object (entries.map fun e => (.text e.1, e.2))) =
      some r ∧ r.isList = false ∧ r.misplaced = none ∧ r.HasAll parts members := by
  have hkept : kept.filter (fun e => (parts.map (·.1)).contains e.1) = kept :=
    List.filter_eq_self.mpr fun e he =>
      List.contains_iff_mem.mpr (Record.mem_names_of_saysParts h (List.mem_map_of_mem he))
  have hnone : others.filter (fun e => (parts.map (·.1)).contains e.1) = [] :=
    List.filter_eq_nil_iff.mpr fun e he hmem => hothers e he (List.contains_iff_mem.mp hmem)
  have hdeclared : (entries.filter fun e => (parts.map (·.1)).contains e.1).Perm kept := by
    have hfilter := hperm.filter fun e => (parts.map (·.1)).contains e.1
    rw [List.filter_append, hkept, hnone, List.append_nil] at hfilter
    exact hfilter
  have hkeptNodup := Record.nodup_of_saysParts h hnodup
  have hentriesNodup := (hdeclared.map (·.1)).nodup_iff.mpr hkeptNodup
  have hunseen : ∀ e ∈ entries, (parts.map (·.1)).contains e.1 = true →
      ([] : List String).contains e.1 = false := fun _ _ _ => rfl
  obtain ⟨hcollected, hplace⟩ := Record.collect_eq 0 hentriesNodup hunseen
  obtain ⟨r, hr, hlist, hplaced, hnamed⟩ : ∃ r, Record.ofDocument? (parts.map (·.1))
      (.object (entries.map fun e => (.text e.1, e.2))) = some r ∧ r.isList = false ∧
        r.misplaced = none ∧ r.named = entries.filter fun e => (parts.map (·.1)).contains e.1 :=
    ⟨_, rfl, rfl, hplace, hcollected⟩
  rw [← hnamed] at hdeclared hentriesNodup
  refine ⟨r, hr, hlist, hplaced, Record.hasAll_of_saysParts h hnodup (fun e he => ?_)
    fun name _ hmem => Record.part?_eq_none fun hname => hmem ?_⟩
  · exact Record.part?_eq_some hentriesNodup (hdeclared.mem_iff.mpr he)
  · exact (hdeclared.map (·.1)).mem_iff.mp hname

/-- A document that says a record is an object that has all declared parts. -/
theorem Says.exists_record (h : Says (.record parts) (.object members) d)
    (hnames : members.map (·.1) = parts.map (·.1)) (hnodup : (parts.map (·.1)).Nodup) :
    ∃ r, Record.ofDocument? (parts.map (·.1)) d = some r ∧ r.isList = false ∧
      r.misplaced = none ∧ r.HasAll parts members := by
  cases h with
  | unchanged =>
    rw [Document.ofJson, ofMembers_eq]
    have hnone : ∀ e ∈ ([] : List (String × Document)), e.1 ∉ parts.map (·.1) :=
      fun _ he => absurd he List.not_mem_nil
    exact (saysParts_unchanged hnames).exists_record hnone (by rw [List.append_nil]) hnodup
  | record hparts hothers hperm => exact hparts.exists_record hothers hperm hnodup

/-! ### Readers -/

/-- The decoder reads the value from every document that says its written form. -/
def Reads {α : Type} (decode : Decoder α) (shape : Shape) (j : Json) (a : α) : Prop :=
  ∀ d : Document, Says shape j d → decode d = .ok a

section Leaves

variable {j : Json}

theorem says_leaf (h : Says .leaf j d) : d = .ofJson j := by
  cases h
  rfl

theorem reads_text (s : String) : Reads Decode.text .leaf (.text s) s := fun _ h => by
  rw [says_leaf h]
  rfl

theorem reads_bool (b : Bool) : Reads Decode.bool .leaf (.bool b) b := fun _ h => by
  rw [says_leaf h]
  rfl

theorem reads_int {n : Int} (hleast : -0x8000000000000000 ≤ n) (hmost : n ≤ 0x7fffffffffffffff) :
    Reads Decode.int .leaf (.int n) n := fun _ h => by
  rw [says_leaf h]
  exact if_pos ⟨hleast, hmost⟩

theorem reads_count {n : Nat} (h : n ≤ 0xffffffff) : Reads Decode.count .leaf (.nat n) n :=
  fun _ hsaid => by
  have hwithin : Decode.within 0 (0xffffffff : Nat) n = .ok (n : Int) :=
    if_pos ⟨Int.natCast_nonneg n, Int.ofNat_le.mpr h⟩
  rw [says_leaf hsaid, Decode.count, Json.nat, Document.ofJson, Decode.natUpTo, hwithin]
  rfl

/-- One of a few values is read by its name, if each is found by its own. -/
theorem reads_oneOf {α : Type} {name : α → String} {all : List α}
    (h : ∀ a, all.find? (fun b => name b == name a) = some a) (a : α) :
    Reads (Decode.oneOf name all) .leaf (.text (name a)) a := fun _ hsaid => by
  rw [says_leaf hsaid, Decode.oneOf]
  show Decode.orMalformed (all.find? fun b => name b == name a) = .ok a
  rw [h]
  rfl

theorem eq_of_name_eq {α : Type} {name : α → String} {all : List α}
    (h : ∀ a, all.find? (fun b => name b == name a) = some a) {a b : α}
    (hname : Json.text (name a) = .text (name b)) : a = b := by
  have ha := h a
  rw [Json.text.inj hname, h b] at ha
  exact (Option.some.inj ha).symm

end Leaves

theorem Reads.map {α β : Type} {decode : Decoder α} {shape : Shape} {j : Json} {a : α} (f : α → β)
    (h : Reads decode shape j a) : Reads (fun d => (decode d).map f) shape j (f a) := fun _ hsaid =>
  congrArg (Except.map f) (h _ hsaid)

theorem Reads.bind {α β : Type} {decode : Decoder α} {shape : Shape} {j : Json} {a : α} {b : β}
    {f : α → Except Fault β} (h : Reads decode shape j a) (hf : f a = .ok b) :
    Reads (fun d => decode d >>= f) shape j b := fun d hsaid =>
  (congrArg (· >>= f) (h d hsaid)).trans hf

theorem Reads.checked {α β : Type} {decode : Decoder α} {shape : Shape} {j : Json} {a : α} {b : β}
    {check : α → Except Failure β} (h : Reads decode shape j a) (hcheck : check a = .ok b) :
    Reads (Decode.checked decode check) shape j b :=
  h.bind (by rw [hcheck])

/-! ### Lists -/

theorem says_list {item : Shape} {items : List Json} (h : Says (.list item) (.array items) d) :
    ∃ ds, d = .array ds ∧ SaysItems item items ds := by
  cases h with
  | unchanged => exact ⟨_, rfl, saysItems_unchanged item items⟩
  | list hitems => exact ⟨_, rfl, hitems⟩

section Lists

variable {α : Type} {decode : Decoder α} {shape : Shape} {write : α → Json}

theorem mapM_of_saysItems : ∀ {values : List α} {ds : List Document},
    (∀ a ∈ values, Reads decode shape (write a) a) → SaysItems shape (values.map write) ds →
      ds.mapM decode = .ok values
  | [], _, _, .nil => rfl
  | a :: values, d :: ds, h, .cons hfirst hrest => by
    obtain ⟨ha, hvalues⟩ := List.forall_mem_cons.mp h
    rw [List.mapM_cons, ha _ hfirst, mapM_of_saysItems hvalues hrest]
    rfl

theorem reads_list {values : List α} (h : ∀ a ∈ values, Reads decode shape (write a) a) :
    Reads (Decode.list decode) (.list shape) (.list write values) values := fun _ hsaid => by
  obtain ⟨ds, rfl, hitems⟩ := says_list hsaid
  exact mapM_of_saysItems h hitems

theorem eq_nil_of_list {values : List α} (h : Json.array [] = .list write values) :
    [] = values := by
  cases values with
  | nil => rfl
  | cons _ _ => cases h

/-- A list of texts has nothing inside that may change. -/
theorem reads_texts (values : List String) :
    Reads (Decode.list Decode.text) .leaf (.texts values) values := fun _ hsaid => by
  rw [says_leaf hsaid]
  exact reads_list (fun s _ => reads_text s) _ (@Says.unchanged (.list .leaf) _)

end Lists

/-! ### Values that may be missing -/

section Missing

variable {α : Type} {decode : Decoder α} {shape : Shape} {write : α → Json}

theorem optional_eq_map {j : Json} (h : Says shape j d) (hj : j ≠ .null) :
    Decode.optional decode d = (decode d).map some := by
  cases h with
  | unchanged =>
    cases j with
    | null => exact absurd rfl hj
    | bool _ => rfl
    | int _ => rfl
    | text _ => rfl
    | array _ => rfl
    | object _ => rfl
  | list _ => rfl
  | record _ _ _ => rfl

theorem says_null (h : Says shape .null d) : d = .null := by
  cases h
  rfl

theorem reads_optional {o : Option α} (hwrite : ∀ a, write a ≠ .null)
    (h : ∀ a ∈ o, Reads decode shape (write a) a) :
    Reads (Decode.optional decode) shape (.optional write o) o := fun _ hsaid => by
  cases o with
  | none =>
    rw [says_null hsaid]
    rfl
  | some a =>
    rw [optional_eq_map hsaid (hwrite a), h a rfl _ hsaid]
    rfl

end Missing

/-! ### Records -/

namespace Record.Has

variable {r : Record} {name : String} {shape : Shape} {j : Json} {α : Type} {decode : Decoder α}
  {a : α}

theorem part_eq {default : Option Json} (h : r.Has name default shape j)
    (hr : Reads decode shape j a) {missing : Located α}
    (hmissing : default = some j → missing = .ok a) : r.part name decode missing = .ok a := by
  unfold Has part? at h
  unfold part
  rcases h with ⟨d, hd, hsaid⟩ | ⟨hnone, hdefault⟩
  · obtain ⟨p, hp, rfl⟩ := Option.map_eq_some_iff.mp hd
    rw [hp]
    show Located.ofExcept p.2.1 (decode p.2.2) = .ok a
    rw [hr _ hsaid]
    rfl
  · rw [Option.map_eq_none_iff.mp hnone]
    exact hmissing hdefault

/-- A part without a default is there. -/
theorem required (h : r.Has name none shape j) (hr : Reads decode shape j a) :
    r.required name decode = .ok a :=
  h.part_eq hr nofun

/-- A part that is left out has its default for a value. -/
theorem withDefault {k : Json} {default : α} (h : r.Has name (some k) shape j)
    (hr : Reads decode shape j a) (hdefault : k = j → default = a) :
    r.withDefault name decode default = .ok a :=
  h.part_eq hr fun hk => congrArg Located.ok (hdefault (Option.some.inj hk))

theorem optional {write : α → Json} {o : Option α}
    (h : r.Has name (some .null) shape (.optional write o)) (hwrite : ∀ a, write a ≠ .null)
    (hr : ∀ a ∈ o, Reads decode shape (write a) a) : r.optional name decode = .ok o := by
  refine h.withDefault (reads_optional hwrite hr) fun hnull => ?_
  cases o with
  | none => rfl
  | some a => exact absurd hnull.symm (hwrite a)

/-- Of an object this part may be left out, too. -/
theorem nullable {write : α → Json} {o : Option α} (hobject : r.isList = false)
    (h : r.Has name (some .null) shape (.optional write o)) (hwrite : ∀ a, write a ≠ .null)
    (hr : ∀ a ∈ o, Reads decode shape (write a) a) : r.nullable name decode = .ok o := by
  have hoptional := h.optional hwrite hr
  rw [Record.nullable, hobject]
  exact hoptional

end Record.Has

/-- A record is read if its parts are. -/
theorem reads_record {α : Type} {names : List String} {build : Record → Located α} {a : α}
    (hparts : names = parts.map (·.1)) (hnames : members.map (·.1) = parts.map (·.1))
    (hnodup : (parts.map (·.1)).Nodup)
    (hbuild : ∀ r : Record, r.isList = false → r.HasAll parts members → build r = .ok a) :
    Reads (Decode.record names build) (.record parts) (.object members) a := fun _ hsaid => by
  obtain ⟨r, hr, hlist, hplaced, hall⟩ := hsaid.exists_record hnames hnodup
  rw [Decode.record, hparts, hr]
  show (((build r).map fun a _ => a).apply r.placed).toExcept = .ok a
  rw [hbuild r hlist hall, Record.placed, hplaced]
  rfl

end StageRuns
