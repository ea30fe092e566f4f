/-
# The tokens of a written value

A value that was written, in the compact or in the indented layout, is scanned as the
tokens that stand for it (`Json.scan_compactChars`, `Json.scan_indentedChars`): words,
whole numbers of 64 bits and quoted texts are taken whole, and blanks leave no token.
A word or a number ends where the next character cannot be part of it
(`Json.Scanner.Stops`); in a written value a comma, a closing bracket or a new line
follows, or nothing at all.

Key definitions: `Json.tokensOf`, `Json.Readable`, `Json.Scanner.Stops`.
Key theorems: `Json.scan_quoted`, `Json.numberToken_digitsOfInt`,
`Json.scan_compactChars`, `Json.scan_indentedChars`.
-/
import Mathlib.Data.List.TakeWhile
import StageRuns.Json.Printer
import StageRuns.Json.Token
import StageRuns.Proofs.Text

namespace StageRuns
namespace Json

open Text

/-! ### Tokens -/

mutual

/-- The tokens that stand for a value. -/
def tokensOf : Json → List Token
  | null => [.scalar .null]
  | bool b => [.scalar (.bool b)]
  | int n => [.scalar (.int n)]
  | text s => [.text (some s)]
  | array [] => [.openArray, .closeArray]
  | array (item :: items) => .openArray :: (tokensOf item ++ itemTokens items)
  | object [] => [.openObject, .closeObject]
  | object ((key, value) :: members) =>
    .openObject :: .text (some key) :: .colon :: (tokensOf value ++ memberTokens members)

/-- The tokens of the items that follow the first one, and the closing bracket. -/
def itemTokens : List Json → List Token
  | [] => [.closeArray]
  | item :: items => .comma :: (tokensOf item ++ itemTokens items)

/-- The tokens of the members that follow the first one, and the closing brace. -/
def memberTokens : List (String × Json) → List Token
  | [] => [.closeObject]
  | (key, value) :: members =>
    .comma :: .text (some key) :: .colon :: (tokensOf value ++ memberTokens members)

end

/-- The value can be read: its numbers have 64 bits, with or without sign, and it is not
deeper than there is room for brackets. -/
inductive Readable : Nat → Json → Prop
  | null {room : Nat} : Readable room null
  | bool {room : Nat} {b : Bool} : Readable room (bool b)
  | int {room : Nat} {n : Int} : -0x8000000000000000 ≤ n → n < 0x10000000000000000 →
      Readable room (int n)
  | text {room : Nat} {s : String} : Readable room (text s)
  | array {room : Nat} {items : List Json} : (∀ item ∈ items, Readable room item) →
      Readable (room + 1) (array items)
  | object {room : Nat} {members : List (String × Json)} :
      (∀ m ∈ members, Readable room m.2) → Readable (room + 1) (object members)

namespace Scanner

/-- Nothing follows that could be part of a word or a number. -/
def Stops (rest : List Char) : Prop :=
  ∀ c ∈ rest.head?, isNumberChar c = false ∧ c.isLower = false

theorem stops_nil : Stops [] := nofun

theorem stops_cons {c : Char} (hn : isNumberChar c = false) (hl : c.isLower = false)
    (rest : List Char) : Stops (c :: rest) := by
  intro d hd
  cases hd
  exact ⟨hn, hl⟩

variable {c : Char} {rest : List Char}

/-! ### Blanks -/

theorem scan_newLine (depth : Nat) (rest : List Char) :
    scan between (newLine depth ++ rest) = scan between rest :=
  scan_spaces (2 * depth)
where
  scan_spaces : ∀ n : Nat, scan between (List.replicate n ' ' ++ rest) = scan between rest
    | 0 => rfl
    | n + 1 => scan_spaces n

theorem scan_space (rest : List Char) : scan between (' ' :: rest) = scan between rest := rfl

/-! ### Words -/

theorem scan_word (letters : List Char) (h : Stops rest) :
    scan (word letters) rest = wordToken letters.reverse :: scan between rest := by
  cases rest with
  | nil => rfl
  | cons c rest =>
    obtain ⟨-, hl⟩ := h c rfl
    rw [scan, step, if_neg (by rw [hl]; exact Bool.false_ne_true)]
    rfl

/-! ### Numbers -/

theorem isNumberChar_of_isDigit (h : c.isDigit = true) : isNumberChar c = true := by
  simp [isNumberChar, h]

theorem start_of_isDigit (h : c.isDigit = true) : start c = ([], number [c]) := by
  have hne : ∀ d : Char, d.isDigit = false → c ≠ d := fun d hd e => by
    rw [e, hd] at h
    cases h
  have hspace : isSpace c = false := by
    simp [isSpace, hne ' ' rfl, hne '\n' rfl, hne '\t' rfl, hne '\r' rfl]
  simp [start, hspace, h, hne '[' rfl, hne ']' rfl, hne '\x7b' rfl, hne '\x7d' rfl, hne ',' rfl,
    hne ':' rfl, hne '"' rfl]

/-- All characters of a number are taken in, and it ends with the last one. -/
theorem scan_number (h : Stops rest) : ∀ (cs chars : List Char),
    (∀ c ∈ cs, isNumberChar c = true) → scan (number chars) (cs ++ rest) =
      numberToken (chars.reverse ++ cs) :: scan between rest
  | [], chars, _ => by
    rw [List.nil_append, List.append_nil]
    cases rest with
    | nil => rfl
    | cons c rest =>
      obtain ⟨hn, -⟩ := h c rfl
      rw [scan, step, if_neg (by rw [hn]; exact Bool.false_ne_true)]
      rfl
  | c :: cs, chars, hcs => by
    obtain ⟨hc, hcs⟩ := List.forall_mem_cons.mp hcs
    rw [List.cons_append, scan, step, if_pos hc]
    show scan (number (c :: chars)) (cs ++ rest) = _
    rw [scan_number h cs (c :: chars) hcs, List.reverse_cons, List.append_assoc]
    rfl

end Scanner

/-- The digits of a number are its part before the point, as JSON asks for it. -/
theorem isWholePart_digitsOfNat (n : Nat) : isWholePart (digitsOfNat n) = true := by
  obtain ⟨c, cs, hcons, -⟩ := exists_digitsOfNat_eq_cons n
  rw [hcons]
  cases cs with
  | nil => rfl
  | cons d cs =>
    rw [isWholePart, bne_iff_ne]
    · rintro rfl
      have hpos : 0 < n := by
        by_contra hn
        have hzero : n = 0 := by omega
        rw [hzero] at hcons
        cases hcons
      have hhead := head?_digitsOfNat hpos
      rw [hcons] at hhead
      exact hhead rfl
    · exact nofun

theorem spanDigits_digitsOfNat (n : Nat) : spanDigits (digitsOfNat n) = (digitsOfNat n, []) := by
  have hall : ∀ c ∈ digitsOfNat n, c.isDigit = true := fun _ => isDigit_of_mem_digitsOfNat
  rw [spanDigits, List.takeWhile_eq_self_iff.mpr hall, List.dropWhile_eq_nil_iff.mpr hall]

theorem ofChars?_digitsOfNat (n : Nat) :
    WrittenNumber.ofChars? (digitsOfNat n) = some ⟨false, digitsOfNat n, [], none⟩ := by
  have hspan := spanDigits_digitsOfNat n
  have hwhole := isWholePart_digitsOfNat n
  have hdash := dash_notMem_digitsOfNat n
  obtain ⟨c, cs, hcons, -⟩ := exists_digitsOfNat_eq_cons n
  rw [hcons] at hspan hwhole hdash ⊢
  have hc : c ≠ '-' := fun h => hdash (h ▸ List.mem_cons_self)
  simp [WrittenNumber.ofChars?, hc, hspan, hwhole, readFraction?, readExponent?]

theorem ofChars?_negative (n : Nat) :
    WrittenNumber.ofChars? ('-' :: digitsOfNat n) = some ⟨true, digitsOfNat n, [], none⟩ := by
  unfold WrittenNumber.ofChars?
  simp only [spanDigits_digitsOfNat]
  simp [readFraction?, readExponent?, isWholePart_digitsOfNat]

theorem readDigits_digitsOfNat (n : Nat) : readDigits 0 (digitsOfNat n) = some n := by
  have hn : Nat.ofDigitChars 10 (digitsOfNat n) 0 = n := Nat.ofDigitChars_ten_toDigits
  rw [readDigits_of_digits (digitsOfNat n) 0 fun _ => isDigit_of_mem_digitsOfNat, hn]

/-- A whole number of 64 bits is read back as itself. -/
theorem numberToken_digitsOfInt {n : Int} (hleast : -0x8000000000000000 ≤ n)
    (hmost : n < 0x10000000000000000) : Scanner.numberToken (digitsOfInt n) = .scalar (.int n) := by
  unfold Scanner.numberToken readNumber?
  cases n with
  | ofNat n =>
    have hn : n < 0x10000000000000000 := Int.ofNat_lt.mp hmost
    rw [digitsOfInt, ofChars?_digitsOfNat]
    simp [WrittenNumber.int?, readDigits_digitsOfNat, hn]
  | negSucc n =>
    have hn : n + 1 ≤ 0x8000000000000000 := by
      rw [Int.negSucc_eq] at hleast
      omega
    rw [digitsOfInt, ofChars?_negative]
    simp [WrittenNumber.int?, readDigits_digitsOfNat, hn, Int.negSucc_eq]

namespace Scanner

variable {rest : List Char}

theorem scan_digitsOfInt {n : Int} (hleast : -0x8000000000000000 ≤ n)
    (hmost : n < 0x10000000000000000) (h : Stops rest) :
    scan between (digitsOfInt n ++ rest) = .scalar (.int n) :: scan between rest := by
  have hdigits : ∀ m, ∀ c ∈ digitsOfNat m, isNumberChar c = true := fun m c hc =>
    isNumberChar_of_isDigit (isDigit_of_mem_digitsOfNat hc)
  rw [← numberToken_digitsOfInt hleast hmost]
  cases n with
  | ofNat n =>
    have hall := hdigits n
    obtain ⟨c, cs, hcons, hc⟩ := exists_digitsOfNat_eq_cons n
    rw [hcons] at hall
    rw [digitsOfInt, hcons, List.cons_append, scan, step, start_of_isDigit hc]
    exact scan_number h cs [c] (List.forall_mem_cons.mp hall).2
  | negSucc n => exact scan_number h (digitsOfNat (n + 1)) ['-'] (hdigits (n + 1))

theorem scan_boolChars (b : Bool) (h : Stops rest) :
    scan between (boolChars b ++ rest) = .scalar (.bool b) :: scan between rest := by
  cases b with
  | false => exact scan_word ['e', 's', 'l', 'a', 'f'] h
  | true => exact scan_word ['e', 'u', 'r', 't'] h

end Scanner

/-! ### Quoted texts -/

/-- Has the character an escape of one letter, although it is a control? -/
def hasShortEscape (c : Char) : Bool :=
  c = '\x08' || c = '\x0c' || c = '\n' || c = '\r' || c = '\t'

/-- The piece that a written character is read as. -/
def pieceOf (c : Char) : Piece :=
  if c.toNat < 32 ∧ hasShortEscape c = false then .code c.toNat else .char c

theorem hexValue?_hexDigit : ∀ n < 16, hexValue? (hexDigit n) = some n := by
  decide

namespace Scanner

theorem scan_hex {c : Char} {d : Nat} (h : hexValue? c = some d) (pieces : List Piece)
    (count value : Nat) (rest : List Char) : scan (hex pieces count value) (c :: rest) =
      scan (if count = 3 then quote (.code (value * 16 + d) :: pieces)
        else hex pieces (count + 1) (value * 16 + d)) rest := by
  by_cases hcount : count = 3
  · simp [scan, step, h, hcount]
  · simp [scan, step, h, hcount]

/-- A character below U+0020 is written as four digits. -/
theorem scan_control (pieces : List Piece) {c : Char} (hc : c.toNat < 32) (rest : List Char) :
    scan (quote pieces) ('\\' :: 'u' :: '0' :: '0' :: hexDigit (c.toNat / 16) ::
      hexDigit (c.toNat % 16) :: rest) = scan (quote (.code c.toNat :: pieces)) rest := by
  have hzero : hexValue? '0' = some 0 := by decide
  have hhigh := hexValue?_hexDigit (c.toNat / 16) (by omega)
  have hlow := hexValue?_hexDigit (c.toNat % 16) (by omega)
  have hcode : (((0 * 16 + 0) * 16 + 0) * 16 + c.toNat / 16) * 16 + c.toNat % 16 = c.toNat := by
    omega
  show scan (hex pieces 0 0) _ = _
  rw [scan_hex hzero, if_neg (by decide), scan_hex hzero, if_neg (by decide), scan_hex hhigh,
    if_neg (by decide), scan_hex hlow, if_pos rfl, hcode]

theorem scan_quotedChar (pieces : List Piece) (c : Char) (rest : List Char) :
    scan (quote pieces) (quotedChar c ++ rest) = scan (quote (pieceOf c :: pieces)) rest := by
  unfold quotedChar
  split
  case isTrue h => subst h; rfl
  split
  case isTrue h => subst h; rfl
  split
  case isTrue h => subst h; rfl
  split
  case isTrue h => subst h; rfl
  split
  case isTrue h => subst h; rfl
  split
  case isTrue h => subst h; rfl
  split
  case isTrue h => subst h; rfl
  case isFalse hq hs hb hf hn hr ht =>
  have hshort : hasShortEscape c = false := by simp [hasShortEscape, hb, hf, hn, hr, ht]
  by_cases hc : c.toNat < 32
  · rw [if_pos hc, pieceOf, if_pos ⟨hc, hshort⟩]
    exact scan_control pieces hc rest
  · rw [if_neg hc, pieceOf, if_neg fun h => hc h.1, List.cons_append, List.nil_append, scan, step,
      if_neg hq, if_neg hs, if_neg hc]
    rfl

theorem scan_quotedChars (rest : List Char) : ∀ (cs : List Char) (pieces : List Piece),
    scan (quote pieces) (cs.flatMap quotedChar ++ rest) =
      scan (quote ((cs.map pieceOf).reverse ++ pieces)) rest
  | [], _ => rfl
  | c :: cs, pieces => by
    rw [List.flatMap_cons, List.append_assoc, scan_quotedChar, scan_quotedChars rest cs,
      List.map_cons, List.reverse_cons, List.append_assoc]
    rfl

end Scanner

/-- The pieces of a written text stand for its characters. -/
theorem joinPieces_map_pieceOf : ∀ cs : List Char, joinPieces (cs.map pieceOf) = some cs
  | [] => rfl
  | c :: cs => by
    have ih := joinPieces_map_pieceOf cs
    rw [List.map_cons]
    by_cases hc : c.toNat < 32 ∧ hasShortEscape c = false
    · have hlow : ¬ (0xd800 ≤ c.toNat ∧ c.toNat ≤ 0xdfff) := by omega
      rw [pieceOf, if_pos hc]
      cases hcs : cs.map pieceOf with
      | nil =>
        rw [hcs] at ih
        rw [joinPieces, if_neg hlow, ih, Char.ofNat_toNat]
        · rfl
        · exact nofun
      | cons p ps =>
        rw [hcs] at ih
        cases p with
        | char d =>
          rw [joinPieces, if_neg hlow, ih, Char.ofNat_toNat]
          · rfl
          · exact nofun
        | code n =>
          have hpair : ¬ (0xd800 ≤ c.toNat ∧ c.toNat ≤ 0xdbff ∧ 0xdc00 ≤ n ∧ n ≤ 0xdfff) := by
            omega
          rw [joinPieces, if_neg hpair, if_neg hlow, ih, Char.ofNat_toNat]
          rfl
    · rw [pieceOf, if_neg hc, joinPieces, ih]
      rfl

open Scanner

/-- A quoted text is read back as itself. -/
theorem scan_quoted (s : String) (rest : List Char) :
    scan between (quoted s ++ rest) = .text (some s) :: scan between rest := by
  have hquote : scan between (quoted s ++ rest) =
      scan (quote []) (s.toList.flatMap quotedChar ++ '"' :: rest) := by
    rw [quoted, List.cons_append, List.append_assoc]
    rfl
  rw [hquote, scan_quotedChars, List.append_nil, scan, step, if_pos rfl]
  show [textToken _] ++ scan between rest = _
  rw [List.reverse_reverse, textToken, joinPieces_map_pieceOf, Option.map_some,
    String.ofList_toList]
  rfl

/-- A key is followed by a colon. -/
theorem scan_key (key : String) (rest : List Char) : scan between (quoted key ++ ':' :: rest) =
    .text (some key) :: .colon :: scan between rest :=
  scan_quoted key (':' :: rest)

/-! ### The compact layout -/

theorem stops_compactItems (items : List Json) (rest : List Char) :
    Stops (compactItems items ++ rest) := by
  cases items with
  | nil => exact stops_cons rfl rfl rest
  | cons item items => exact stops_cons rfl rfl _

theorem stops_compactMembers (members : List (String × Json)) (rest : List Char) :
    Stops (compactMembers members ++ rest) := by
  cases members with
  | nil => exact stops_cons rfl rfl rest
  | cons m members => exact stops_cons rfl rfl _

mutual

/-- A value in the compact layout is scanned as its tokens. -/
theorem scan_compactChars : ∀ {room : Nat} {j : Json}, Readable room j → ∀ {rest : List Char},
    Stops rest → scan between (compactChars j ++ rest) = tokensOf j ++ scan between rest
  | _, null, _, _, h => scan_word ['l', 'l', 'u', 'n'] h
  | _, bool b, _, _, h => scan_boolChars b h
  | _, int n, .int hleast hmost, _, h => scan_digitsOfInt hleast hmost h
  | _, text s, _, rest, _ => scan_quoted s rest
  | _, array [], _, _, _ => rfl
  | _, array (item :: items), .array hitems, rest, _ => by
    obtain ⟨hitem, hitems⟩ := List.forall_mem_cons.mp hitems
    have hfirst := scan_compactChars hitem (stops_compactItems items rest)
    have hrest := scan_compactItems hitems rest
    simp only [compactChars, tokensOf, List.cons_append, List.append_assoc]
    show .openArray :: scan between (compactChars item ++ _) = _
    rw [hfirst, hrest]
  | _, object [], _, _, _ => rfl
  | _, object ((key, value) :: members), .object hmembers, rest, _ => by
    obtain ⟨hvalue, hmembers⟩ := List.forall_mem_cons.mp hmembers
    have hfirst := scan_compactChars hvalue (stops_compactMembers members rest)
    have hrest := scan_compactMembers hmembers rest
    simp only [compactChars, tokensOf, List.cons_append, List.append_assoc]
    show .openObject :: scan between (quoted key ++ _) = _
    rw [scan_key, hfirst, hrest]

theorem scan_compactItems : ∀ {room : Nat} {items : List Json},
    (∀ item ∈ items, Readable room item) → ∀ rest : List Char,
      scan between (compactItems items ++ rest) = itemTokens items ++ scan between rest
  | _, [], _, _ => rfl
  | _, item :: items, hitems, rest => by
    obtain ⟨hitem, hitems⟩ := List.forall_mem_cons.mp hitems
    have hfirst := scan_compactChars hitem (stops_compactItems items rest)
    have hrest := scan_compactItems hitems rest
    simp only [compactItems, itemTokens, List.cons_append, List.append_assoc]
    show .comma :: scan between (compactChars item ++ _) = _
    rw [hfirst, hrest]

theorem scan_compactMembers : ∀ {room : Nat} {members : List (String × Json)},
    (∀ m ∈ members, Readable room m.2) → ∀ rest : List Char,
      scan between (compactMembers members ++ rest) = memberTokens members ++ scan between rest
  | _, [], _, _ => rfl
  | _, (key, value) :: members, hmembers, rest => by
    obtain ⟨hvalue, hmembers⟩ := List.forall_mem_cons.mp hmembers
    have hfirst := scan_compactChars hvalue (stops_compactMembers members rest)
    have hrest := scan_compactMembers hmembers rest
    simp only [compactMembers, memberTokens, List.cons_append, List.append_assoc]
    show .comma :: scan between (quoted key ++ _) = _
    rw [scan_key, hfirst, hrest]

end

/-! ### The indented layout -/

theorem stops_indentedItems (depth : Nat) (items : List Json) (rest : List Char) :
    Stops (indentedItems depth items ++ rest) := by
  cases items with
  | nil => exact stops_cons rfl rfl _
  | cons item items => exact stops_cons rfl rfl _

theorem stops_indentedMembers (depth : Nat) (members : List (String × Json)) (rest : List Char) :
    Stops (indentedMembers depth members ++ rest) := by
  cases members with
  | nil => exact stops_cons rfl rfl _
  | cons m members => exact stops_cons rfl rfl _

mutual

/-- A value in the indented layout is scanned as its tokens. -/
theorem scan_indentedChars : ∀ {room : Nat} {j : Json}, Readable room j → ∀ (depth : Nat)
    {rest : List Char}, Stops rest →
      scan between (indentedChars depth j ++ rest) = tokensOf j ++ scan between rest
  | _, null, _, _, _, h => scan_word ['l', 'l', 'u', 'n'] h
  | _, bool b, _, _, _, h => scan_boolChars b h
  | _, int n, .int hleast hmost, _, _, h => scan_digitsOfInt hleast hmost h
  | _, text s, _, _, rest, _ => scan_quoted s rest
  | _, array [], _, _, _, _ => rfl
  | _, array (item :: items), .array hitems, depth, rest, _ => by
    obtain ⟨hitem, hitems⟩ := List.forall_mem_cons.mp hitems
    have hfirst := scan_indentedChars hitem (depth + 1) (stops_indentedItems depth items rest)
    have hrest := scan_indentedItems hitems depth rest
    simp only [indentedChars, tokensOf, List.cons_append, List.append_assoc]
    show .openArray :: scan between (newLine (depth + 1) ++ _) = _
    rw [scan_newLine, hfirst, hrest]
  | _, object [], _, _, _, _ => rfl
  | _, object ((key, value) :: members), .object hmembers, depth, rest, _ => by
    obtain ⟨hvalue, hmembers⟩ := List.forall_mem_cons.mp hmembers
    have hfirst := scan_indentedChars hvalue (depth + 1) (stops_indentedMembers depth members rest)
    have hrest := scan_indentedMembers hmembers depth rest
    simp only [indentedChars, tokensOf, List.cons_append, List.append_assoc]
    show .openObject :: scan between (newLine (depth + 1) ++ _) = _
    rw [scan_newLine, scan_key, scan_space, hfirst, hrest]

theorem scan_indentedItems : ∀ {room : Nat} {items : List Json},
    (∀ item ∈ items, Readable room item) → ∀ (depth : Nat) (rest : List Char),
      scan between (indentedItems depth items ++ rest) = itemTokens items ++ scan between rest
  | _, [], _, depth, rest => by
    rw [indentedItems, List.append_assoc, scan_newLine]
    rfl
  | _, item :: items, hitems, depth, rest => by
    obtain ⟨hitem, hitems⟩ := List.forall_mem_cons.mp hitems
    have hfirst := scan_indentedChars hitem (depth + 1) (stops_indentedItems depth items rest)
    have hrest := scan_indentedItems hitems depth rest
    simp only [indentedItems, itemTokens, List.cons_append, List.append_assoc]
    show .comma :: scan between (newLine (depth + 1) ++ _) = _
    rw [scan_newLine, hfirst, hrest]

theorem scan_indentedMembers : ∀ {room : Nat} {members : List (String × Json)},
    (∀ m ∈ members, Readable room m.2) → ∀ (depth : Nat) (rest : List Char),
      scan between (indentedMembers depth members ++ rest) =
        memberTokens members ++ scan between rest
  | _, [], _, depth, rest => by
    rw [indentedMembers, List.append_assoc, scan_newLine]
    rfl
  | _, (key, value) :: members, hmembers, depth, rest => by
    obtain ⟨hvalue, hmembers⟩ := List.forall_mem_cons.mp hmembers
    have hfirst := scan_indentedChars hvalue (depth + 1) (stops_indentedMembers depth members rest)
    have hrest := scan_indentedMembers hmembers depth rest
    simp only [indentedMembers, memberTokens, List.cons_append, List.append_assoc]
    show .comma :: scan between (newLine (depth + 1) ++ _) = _
    rw [scan_newLine, scan_key, scan_space, hfirst, hrest]

end

end Json
end StageRuns
