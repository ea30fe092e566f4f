/-
# Anchors, tags and directives

An anchor names a value for later use, a tag says the type of a value: in full
between angle brackets, or as a handle and the rest of its name, where a byte
may be written as two digits after a percent sign. Directives stand before the
mark of a document's start; they say the version, or what a handle stands for.

Key definitions: `Yaml.readAnchor`, `Yaml.WrittenTag`, `Yaml.readTag`,
`Yaml.Directive`, `Yaml.Directive.read?`, `Yaml.resolveTag?`.
-/
import StageRuns.Yaml.Character
import StageRuns.Yaml.Scalar

namespace StageRuns
namespace Yaml

/-- The name of an anchor or of the use of one. -/
def readAnchor (cs : List Char) : Option String :=
  let name := cs.takeWhile isNameChar
  let rest := cs.drop name.length
  let isEnd := endsWord rest ||
    rest.head?.any (['?', ':', ',', ']', '\x7d', '%', '@', '\x60'].contains ·)
  if name.isEmpty || !isEnd then none else some (String.ofList name)

/-! ### Tags -/

/-- May `c` be part of a tag? Commas and brackets may only where they cannot be
mistaken. -/
def isTagChar (isDelimited : Bool) (c : Char) : Bool :=
  isNameChar c || [';', '/', '?', ':', '@', '&', '=', '+', '$', '.', '!', '~', '*', '\'', '(',
    ')', '%'].contains c || (isDelimited && [',', '[', ']'].contains c)

/-- The bytes that the characters of a tag write: after a percent sign stand the
two digits of a byte. -/
def tagBytes? : List Char → Option (List UInt8)
  | [] => some []
  | '%' :: c :: d :: cs =>
    match digitValue? 16 c, digitValue? 16 d with
    | some high, some low => (tagBytes? cs).map (UInt8.ofNat (high * 16 + low) :: ·)
    | _, _ => none
  | c :: cs => if c = '%' then none else (tagBytes? cs).map (UInt8.ofNat c.toNat :: ·)

/-- The number of bytes that follow the first byte of a character. -/
def following? (b : UInt8) : Option Nat :=
  if b < 0x80 then some 0
  else if b < 0xc0 then none
  else if b < 0xe0 then some 1
  else if b < 0xf0 then some 2
  else if b < 0xf8 then some 3
  else none

/-- Do the bytes make up characters, after some that must still follow one? Which
characters these are does not matter. -/
def areCharacters : Nat → List UInt8 → Bool
  | 0, [] => true
  | _ + 1, [] => false
  | 0, b :: bs => (following? b).any fun count => areCharacters count bs
  | count + 1, b :: bs => 0x80 ≤ b && b < 0xc0 && areCharacters count bs

/-- The text that the characters of a tag write, up to a zero byte. Bytes that are
no text although they look like characters stand for the character of that. -/
def tagText? (cs : List Char) : Option String :=
  (tagBytes? cs).bind fun bytes =>
    if areCharacters 0 bytes then
      some ((String.fromUTF8? ⟨(bytes.takeWhile (· != 0)).toArray⟩).getD "\ufffd")
    else none

/-- A tag as it is written. A tag in full has no handle. -/
structure WrittenTag where
  handle : String
  suffix : String
deriving Repr, DecidableEq

/-- The name of a tag in full between angle brackets, after the first of them,
and the number of its characters with the last of them. -/
def readFullTag (cs : List Char) : Option (WrittenTag × Nat) := do
  let name := cs.takeWhile (isTagChar true)
  let text ← tagText? name
  if name.isEmpty || (cs.drop name.length).head? != some '>' then none
  else return (⟨"", text⟩, name.length + 1)

/-- A tag by a handle after its exclamation mark, and the number of characters.
A lone exclamation mark is a tag too. -/
def readShortTag (cs : List Char) : Option (WrittenTag × Nat) := do
  let name := cs.takeWhile isNameChar
  match cs.drop name.length with
  | '!' :: after =>
    let suffix := after.takeWhile (isTagChar false)
    let text ← tagText? suffix
    if suffix.isEmpty then none
    else return (⟨String.ofList ('!' :: name ++ ['!']), text⟩, name.length + 1 + suffix.length)
  | _ =>
    let suffix := cs.takeWhile (isTagChar false)
    let text ← tagText? suffix
    return (if text.isEmpty then ⟨"", "!"⟩ else ⟨"!", text⟩, suffix.length)

/-- The tag after its exclamation mark, and the number of its characters. A blank
must follow, or a comma inside brackets. -/
def readTag (inBrackets : Bool) (cs : List Char) : Option (WrittenTag × Nat) := do
  let (tag, width) ← match cs with
    | '<' :: cs => (readFullTag cs).map fun t => (t.1, t.2 + 1)
    | cs => readShortTag cs
  let rest := cs.drop width
  if endsWord rest || (inBrackets && rest.head? == some ',') then some (tag, width) else none

/-- The handles that every document knows. -/
def commonHandles : List (String × String) := [("!", "!"), ("!!", "tag:yaml.org,2002:")]

/-- The full name of a tag. -/
def resolveTag? (handles : List (String × String)) (tag : WrittenTag) : Option String :=
  if tag.handle.isEmpty then some tag.suffix
  else ((handles ++ commonHandles).lookup tag.handle).map (· ++ tag.suffix)

/-- A directive. -/
inductive Directive where
  | version
  /-- What a handle stands for. -/
  | handle (name start : String)
deriving Repr, DecidableEq

namespace Directive

/-- A number of a version, of nine digits at most. -/
def number? (digits : List Char) : Option Nat :=
  if digits.length ≤ 9 then Text.natOfDigits? digits else none

/-- Is this nothing but blanks and a comment? -/
def isVoid (cs : List Char) : Bool :=
  match cs.dropWhile isBlank with
  | [] => true
  | c :: _ => c = '#'

/-- The directive of a version, 1.1 or 1.2. -/
def version? (cs : List Char) : Option Directive :=
  let major := cs.takeWhile Char.isDigit
  match cs.drop major.length with
  | '.' :: cs =>
    let minor := cs.takeWhile Char.isDigit
    if isVoid (cs.drop minor.length) && number? major == some 1 &&
      (number? minor).any ([1, 2].contains ·) then some version else none
  | _ => none

/-- The directive of a handle. -/
def handle? (cs : List Char) : Option Directive :=
  let isHandle (name : List Char) : Bool :=
    name == ['!'] || match name with
      | '!' :: rest => rest.getLast? == some '!' && rest.dropLast.all isNameChar
      | _ => false
  let name := cs.takeWhile fun c => !isParting c
  let after := cs.drop name.length
  let start := after.dropWhile isBlank
  let written := start.takeWhile (isTagChar true)
  let rest := start.drop written.length
  if isHandle name && !written.isEmpty && endsWord rest && isVoid rest then
    (tagText? written).map (handle (String.ofList name) ·)
  else none

/-- The directive on a line after the percent sign. -/
def read? (line : List Char) : Option Directive :=
  let name := line.takeWhile isNameChar
  let rest := line.drop name.length
  if !endsWord rest then none
  else if name == "YAML".toList then version? (rest.dropWhile isBlank)
  else if name == "TAG".toList then handle? (rest.dropWhile isBlank)
  else none

end Directive
end Yaml
end StageRuns
