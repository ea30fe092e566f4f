/-
# A written value is read back

The builder takes the tokens of a value to the document that says the value, inside
whatever brackets are open, as long as there is room for the brackets of the value
(`Json.Builder.feedAll_tokensOf`). So a written value is read as a whole, in either
layout, and also when a new line follows it (`Json.read_of_writtenAs`).

Key definitions: `Json.WrittenAs`, `Json.ReadableMembers`.
Key theorems: `Json.Builder.feedAll_tokensOf`, `Json.read_of_writtenAs`.
-/
import StageRuns.Json.Reader
import StageRuns.Proofs.Json.Tokens

namespace StageRuns
namespace Json

/-- The texts that write a value: compact, or indented, and a new line may follow that
one. -/
inductive WrittenAs (j : Json) : String → Prop
  | compact : WrittenAs j j.compact
  | indented : WrittenAs j j.indented
  | line : WrittenAs j (j.indented ++ "\n")

namespace Builder

open Document (ofJson ofItems ofMembers)

variable {stack : List Frame}

theorem feedAll_cons (builder : Builder) (t : Token) (ts : List Token) :
    feedAll builder (t :: ts) = feedAll (feed builder t) ts := rfl

theorem close_eq (h : stack.length < maxDepth) (v : Document) : close v stack = place v stack := by
  rw [close, if_pos h]

theorem feed_key (stack : List Frame) (done : List (Document × Document)) (mayClose : Bool)
    (s : Option String) :
    feed (atKey stack done mayClose) (.text s) = atColon stack done (quotedText s) := by
  cases done <;> cases mayClose <;> rfl

/-- Inside one more bracket there is room for one bracket less. -/
theorem room_inside {room : Nat} (h : stack.length + (room + 1) ≤ maxDepth) (frame : Frame) :
    (frame :: stack).length + room ≤ maxDepth := by
  rw [List.length_cons]
  omega

mutual

/-- The tokens of a value leave its document in the open brackets. -/
theorem feedAll_tokensOf : ∀ {room : Nat} {j : Json}, Readable room j → ∀ {stack : List Frame},
    stack.length + room ≤ maxDepth → ∀ (mayClose : Bool) (rest : List Token),
      feedAll (atValue stack mayClose) (tokensOf j ++ rest) = feedAll (place (ofJson j) stack) rest
  | _, null, _, _, _, _, _ => rfl
  | _, bool _, _, _, _, _, _ => rfl
  | _, int _, _, _, _, _, _ => rfl
  | _, text _, _, _, _, _, _ => rfl
  | _, array [], .array _, stack, h, _, rest => by
    have hstack : stack.length < maxDepth := by omega
    exact congrArg (feedAll · rest) (close_eq hstack _)
  | _, array (item :: items), .array hitems, stack, h, _, rest => by
    obtain ⟨hitem, hitems⟩ := List.forall_mem_cons.mp hitems
    have hroom := room_inside h (.items [])
    rw [tokensOf, List.cons_append, feedAll_cons, List.append_assoc]
    exact (feedAll_tokensOf hitem hroom true _).trans
      (feedAll_itemTokens hitems h [ofJson item] rest)
  | _, object [], .object _, stack, h, _, rest => by
    have hstack : stack.length < maxDepth := by omega
    exact congrArg (feedAll · rest) (close_eq hstack _)
  | _, object ((key, value) :: members), .object hmembers, stack, h, _, rest => by
    obtain ⟨hvalue, hmembers⟩ := List.forall_mem_cons.mp hmembers
    have hroom := room_inside h (.members [] (.text key))
    rw [tokensOf, List.cons_append, feedAll_cons, List.cons_append, feedAll_cons, List.cons_append,
      feedAll_cons, List.append_assoc]
    exact (feedAll_tokensOf hvalue hroom false _).trans
      (feedAll_memberTokens hmembers h [(.text key, ofJson value)] rest)

theorem feedAll_itemTokens : ∀ {room : Nat} {items : List Json},
    (∀ item ∈ items, Readable room item) → ∀ {stack : List Frame},
      stack.length + (room + 1) ≤ maxDepth → ∀ (done : List Document) (rest : List Token),
        feedAll (afterItem stack done) (itemTokens items ++ rest) =
          feedAll (place (.array (done.reverse ++ ofItems items)) stack) rest
  | _, [], _, stack, h, done, rest => by
    have hstack : stack.length < maxDepth := by omega
    rw [ofItems, List.append_nil]
    exact congrArg (feedAll · rest) (close_eq hstack _)
  | _, item :: items, hitems, stack, h, done, rest => by
    obtain ⟨hitem, hitems⟩ := List.forall_mem_cons.mp hitems
    have hroom := room_inside h (.items done)
    have hrest := feedAll_itemTokens hitems h (ofJson item :: done) rest
    rw [List.reverse_cons, List.append_assoc] at hrest
    rw [itemTokens, List.cons_append, feedAll_cons, List.append_assoc]
    exact (feedAll_tokensOf hitem hroom false _).trans hrest

theorem feedAll_memberTokens : ∀ {room : Nat} {members : List (String × Json)},
    (∀ m ∈ members, Readable room m.2) → ∀ {stack : List Frame},
      stack.length + (room + 1) ≤ maxDepth →
        ∀ (done : List (Document × Document)) (rest : List Token),
          feedAll (afterMember stack done) (memberTokens members ++ rest) =
            feedAll (place (.object (done.reverse ++ ofMembers members)) stack) rest
  | _, [], _, stack, h, done, rest => by
    have hstack : stack.length < maxDepth := by omega
    rw [ofMembers, List.append_nil]
    exact congrArg (feedAll · rest) (close_eq hstack _)
  | _, (key, value) :: members, hmembers, stack, h, done, rest => by
    obtain ⟨hvalue, hmembers⟩ := List.forall_mem_cons.mp hmembers
    have hroom := room_inside h (.members done (.text key))
    have hrest := feedAll_memberTokens hmembers h ((.text key, ofJson value) :: done) rest
    rw [List.reverse_cons, List.append_assoc] at hrest
    rw [memberTokens, List.cons_append, feedAll_cons, List.cons_append, feedAll_cons,
      List.cons_append, feedAll_cons, List.append_assoc, feed, feed_key]
    exact (feedAll_tokensOf hvalue hroom false _).trans hrest

end

end Builder

/-! ### What can be read -/

section Readable

variable {room : Nat} {α : Type} {write : α → Json}

/-- All values of the members can be read. -/
@[reducible] def ReadableMembers (room : Nat) : List (String × Json) → Prop
  | [] => True
  | (_, j) :: members => Readable room j ∧ ReadableMembers room members

theorem readable_object {members : List (String × Json)} (h : ReadableMembers room members) :
    Readable (room + 1) (object members) :=
  .object (readable_of_mem members h)
where
  readable_of_mem : ∀ members : List (String × Json), ReadableMembers room members →
      ∀ m ∈ members, Readable room m.2
    | [], _ => fun _ hm => absurd hm List.not_mem_nil
    | _ :: members, ⟨hj, hmembers⟩ =>
      List.forall_mem_cons.mpr ⟨hj, readable_of_mem members hmembers⟩

theorem readable_list {values : List α} (h : ∀ a ∈ values, Readable room (write a)) :
    Readable (room + 1) (list write values) :=
  .array fun j hj => by
    obtain ⟨a, ha, rfl⟩ := List.mem_map.mp hj
    exact h a ha

theorem readable_texts (values : List String) : Readable (room + 1) (texts values) :=
  readable_list fun _ _ => .text

theorem readable_optional {o : Option α} (h : ∀ a ∈ o, Readable room (write a)) :
    Readable room (optional write o) := by
  cases o with
  | none => exact .null
  | some a => exact h a rfl

theorem readable_nat {n : Nat} (h : n ≤ 0xffffffff) : Readable room (nat n) :=
  .int (by omega) (by omega)

end Readable

variable {j : Json} {s : String}

/-! ### Written values -/

theorem tokens_compact {room : Nat} (h : Readable room j) :
    tokens j.compact.toList = tokensOf j := by
  have hscan := scan_compactChars h Scanner.stops_nil
  rw [List.append_nil] at hscan
  rw [compact, String.toList_ofList, tokens, hscan]
  exact List.append_nil _

theorem tokens_indented {room : Nat} (h : Readable room j) :
    tokens j.indented.toList = tokensOf j := by
  have hscan := scan_indentedChars h 0 Scanner.stops_nil
  rw [List.append_nil] at hscan
  rw [indented, String.toList_ofList, tokens, hscan]
  exact List.append_nil _

theorem tokens_line {room : Nat} (h : Readable room j) :
    tokens (j.indented ++ "\n").toList = tokensOf j := by
  have hscan := scan_indentedChars h 0 (Scanner.stops_cons (c := '\n') rfl rfl [])
  rw [String.toList_append, indented, String.toList_ofList, tokens]
  exact hscan.trans (List.append_nil _)

theorem tokens_of_writtenAs {room : Nat} (h : Readable room j) :
    WrittenAs j s → tokens s.toList = tokensOf j
  | .compact => tokens_compact h
  | .indented => tokens_indented h
  | .line => tokens_line h

/-- A written value is read as a whole, and as itself. -/
theorem read_of_writtenAs (h : Readable Builder.maxDepth j) (hs : WrittenAs j s) :
    read s = ⟨.ofJson j, true⟩ := by
  have hfeed := @Builder.feedAll_tokensOf _ _ h [] (by decide) false []
  rw [List.append_nil] at hfeed
  rw [read, tokens_of_writtenAs h hs, Builder.start, hfeed]
  rfl

end Json
end StageRuns
