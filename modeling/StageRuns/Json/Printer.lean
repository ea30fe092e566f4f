/-
# JSON text

A value is written in one of two layouts: compact, with no blanks at all, or
indented, with each item and member on a line of its own, two spaces deeper
than the brackets around it. Empty brackets stay together in both. A text is
written with the escapes that JSON asks for and no others: quotes,
backslashes and characters below U+0020.

Key definitions: `Json.quoted`, `Json.compactChars`, `Json.compact`,
`Json.indentedChars`, `Json.indented`.
-/
import StageRuns.Json.Basic
import StageRuns.Text.Digit

namespace StageRuns
namespace Json

open Text

/-- A hexadecimal digit in lower case. -/
def hexDigit (n : Nat) : Char := Nat.digitChar n

/-- One character of a quoted text. -/
def quotedChar (c : Char) : List Char :=
  if c = '"' then ['\\', '"']
  else if c = '\\' then ['\\', '\\']
  else if c = '\x08' then ['\\', 'b']
  else if c = '\x0c' then ['\\', 'f']
  else if c = '\n' then ['\\', 'n']
  else if c = '\r' then ['\\', 'r']
  else if c = '\t' then ['\\', 't']
  else if c.toNat < 32 then
    ['\\', 'u', '0', '0', hexDigit (c.toNat / 16), hexDigit (c.toNat % 16)]
  else [c]

/-- A text in quotes. -/
def quoted (s : String) : List Char := '"' :: (s.toList.flatMap quotedChar ++ ['"'])

/-- The characters of a truth value. -/
def boolChars : Bool → List Char
  | true => ['t', 'r', 'u', 'e']
  | false => ['f', 'a', 'l', 's', 'e']

/-! ### The compact layout -/

mutual

/-- The characters of a value, without blanks. -/
def compactChars : Json → List Char
  | null => ['n', 'u', 'l', 'l']
  | bool b => boolChars b
  | int n => digitsOfInt n
  | text s => quoted s
  | array [] => ['[', ']']
  | array (item :: items) => '[' :: compactChars item ++ compactItems items
  | object [] => ['\x7b', '\x7d']
  | object ((key, value) :: members) =>
    '\x7b' :: quoted key ++ ':' :: compactChars value ++ compactMembers members

/-- The items that follow the first one, and the closing bracket. -/
def compactItems : List Json → List Char
  | [] => [']']
  | item :: items => ',' :: compactChars item ++ compactItems items

/-- The members that follow the first one, and the closing brace. -/
def compactMembers : List (String × Json) → List Char
  | [] => ['\x7d']
  | (key, value) :: members =>
    ',' :: quoted key ++ ':' :: compactChars value ++ compactMembers members

end

/-- A value as compact text. -/
def compact (j : Json) : String := String.ofList j.compactChars

/-! ### The indented layout -/

/-- A new line at a depth of two spaces each. -/
def newLine (depth : Nat) : List Char := '\n' :: List.replicate (2 * depth) ' '

mutual

/-- The characters of a value whose brackets stand at a depth. -/
def indentedChars (depth : Nat) : Json → List Char
  | null => ['n', 'u', 'l', 'l']
  | bool b => boolChars b
  | int n => digitsOfInt n
  | text s => quoted s
  | array [] => ['[', ']']
  | array (item :: items) =>
    '[' :: newLine (depth + 1) ++ indentedChars (depth + 1) item ++ indentedItems depth items
  | object [] => ['\x7b', '\x7d']
  | object ((key, value) :: members) =>
    '\x7b' :: newLine (depth + 1) ++ quoted key ++ ':' :: ' ' :: indentedChars (depth + 1) value ++
      indentedMembers depth members

/-- The items that follow the first one, and the closing bracket. -/
def indentedItems (depth : Nat) : List Json → List Char
  | [] => newLine depth ++ [']']
  | item :: items =>
    ',' :: newLine (depth + 1) ++ indentedChars (depth + 1) item ++ indentedItems depth items

/-- The members that follow the first one, and the closing brace. -/
def indentedMembers (depth : Nat) : List (String × Json) → List Char
  | [] => newLine depth ++ ['\x7d']
  | (key, value) :: members =>
    ',' :: newLine (depth + 1) ++ quoted key ++ ':' :: ' ' :: indentedChars (depth + 1) value ++
      indentedMembers depth members

end

/-- A value as indented text. -/
def indented (j : Json) : String := String.ofList (indentedChars 0 j)

end Json
end StageRuns
