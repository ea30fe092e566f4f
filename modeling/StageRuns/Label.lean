/-
# Labels of pipeline runs

A label template is text with placeholders: a dollar sign and a key in braces,
where the key has no braces to close it and no brackets, and may be followed
by a number of characters to keep, as in `[:8]`. A placeholder stands for the
counter, for a variable of the run, or for the latest revision of a material;
one that stands for nothing stays as it is written. What a placeholder is
replaced by is not looked at again.

Key definitions: `Label.Placeholder`, `Label.Segment`, `Label.segments`,
`Label.Values`, `Label.Values.resolve?`, `Label.Values.expand`.
Key theorems: `Label.readPlaceholder?_length`.
-/
import StageRuns.Material
import StageRuns.Text.Blank
import StageRuns.Text.Digit
import StageRuns.Variables

namespace StageRuns
namespace Label

/-- A key and, at will, the digits of a number of characters to keep. -/
structure Placeholder where
  key : List Char
  keep : Option (List Char)
deriving Repr, DecidableEq

namespace Placeholder

/-- The placeholder as it is written. -/
def written (p : Placeholder) : List Char :=
  ['$', '\x7b'] ++ p.key ++
    (match p.keep with
    | some digits => ['[', ':'] ++ digits ++ [']']
    | none => []) ++ ['\x7d']

/-- The name that the key stands for. -/
def name (p : Placeholder) : String := String.ofList (Text.trimChars p.key)

/-- The number of characters to keep, if it is written in ASCII digits and fits
in 64 bits. -/
def count? (p : Placeholder) : Option Nat :=
  (p.keep.bind Text.natOfDigits?).filter fun n => n < 0x10000000000000000

end Placeholder

/-- A part of a template. -/
inductive Segment where
  | literal (c : Char)
  | placeholder (p : Placeholder)
deriving Repr, DecidableEq

/-- May the character be part of a key? -/
def isKeyChar (c : Char) : Bool := c != '\x7d' && c != '[' && c != ']'

/-- The placeholder whose key starts at the front, and the characters after its
closing brace. -/
def readPlaceholder? (cs : List Char) : Option (Placeholder × List Char) :=
  let key := cs.takeWhile isKeyChar
  if key.isEmpty then none
  else match cs.dropWhile isKeyChar with
    | '\x7d' :: rest => some (⟨key, none⟩, rest)
    | '[' :: ':' :: after =>
      let digits := after.takeWhile Text.isDecimalDigit
      if digits.isEmpty then none
      else match after.dropWhile Text.isDecimalDigit with
        | ']' :: '\x7d' :: rest => some (⟨key, some digits⟩, rest)
        | _ => none
    | _ => none

theorem length_dropWhile_le {α : Type} (p : α → Bool) (xs : List α) :
    (xs.dropWhile p).length ≤ xs.length :=
  (List.dropWhile_sublist p).length_le

/-- Reading a placeholder uses up characters. -/
theorem readPlaceholder?_length {cs rest : List Char} {p : Placeholder}
    (h : readPlaceholder? cs = some (p, rest)) : rest.length ≤ cs.length := by
  unfold readPlaceholder? at h
  have hd := length_dropWhile_le isKeyChar cs
  simp only at h
  split at h
  · simp at h
  · split at h
    · rename_i heq
      simp only [Option.some.injEq, Prod.mk.injEq] at h
      rw [heq, List.length_cons, h.2] at hd
      omega
    · rename_i after heq
      rw [heq] at hd
      have ha := length_dropWhile_le Text.isDecimalDigit after
      split at h
      · simp at h
      · split at h
        · rename_i heq'
          simp only [Option.some.injEq, Prod.mk.injEq] at h
          rw [heq', h.2] at ha
          simp only [List.length_cons] at hd ha
          omega
        · simp at h
    · simp at h

/-- The parts of a template, from left to right. -/
def segments : List Char → List Segment
  | [] => []
  | '$' :: '\x7b' :: cs =>
    match h : readPlaceholder? cs with
    | some (p, rest) =>
      have : rest.length ≤ cs.length := readPlaceholder?_length h
      .placeholder p :: segments rest
    | none => .literal '$' :: segments ('\x7b' :: cs)
  | c :: cs => .literal c :: segments cs
termination_by cs => cs.length

/-- What the placeholders of a template may stand for. -/
structure Values where
  counter : Nat
  environment : Variables
  revisions : Revisions
deriving Repr, DecidableEq

namespace Values

/-- The name of a variable in a key that asks for one. -/
def variableName? (key : List Char) : Option String :=
  match key with
  | 'e' :: 'n' :: 'v' :: ':' :: name => some (String.ofList name)
  | 'E' :: 'N' :: 'V' :: ':' :: name => some (String.ofList name)
  | _ => none

/-- The latest revision of a material, cut to a number of characters. -/
def revision? (values : Values) (name : String) (count : Option Nat) : Option String :=
  match values.revisions.byMaterial? name, count with
  | none, _ => none
  | some r, some n => r.shortRevision? n
  | some r, none => r.revision?

/-- What a name with a number of characters to keep stands for. -/
def lookup? (values : Values) (name : String) (count : Option Nat) : Option String :=
  if Text.sameName name "COUNT" && count.isNone then
    some (String.ofList (Text.digitsOfNat values.counter))
  else match variableName? name.toList with
    | some v => values.environment.get? v
    | none => values.revision? name count

/-- What a placeholder stands for. -/
def resolve? (values : Values) (p : Placeholder) : Option String :=
  values.lookup? p.name p.count?

/-- The characters that a part of a template becomes. -/
def expandSegment (values : Values) : Segment → List Char
  | .literal c => [c]
  | .placeholder p =>
    match values.resolve? p with
    | some s => s.toList
    | none => p.written

/-- The label that a template becomes. -/
def expand (values : Values) (template : String) : String :=
  String.ofList ((segments template.toList).flatMap values.expandSegment)

end Values
end Label
end StageRuns
