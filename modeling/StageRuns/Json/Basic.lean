/-
# JSON values

The values that the library writes: null, truth values, whole numbers, texts,
lists, and objects with their members in order. There are no fractions.

Key definitions: `Json`, `Json.texts`, `Json.optional`.
-/
namespace StageRuns

/-- A JSON value with whole numbers only. -/
inductive Json where
  | null
  | bool (value : Bool)
  | int (value : Int)
  | text (value : String)
  | array (items : List Json)
  | object (members : List (String × Json))
deriving Repr, Inhabited

namespace Json

/-- A list of texts. -/
def texts (values : List String) : Json := array (values.map text)

/-- A count. -/
def nat (n : Nat) : Json := int n

/-- A value that may be missing, as null. -/
def optional {α : Type} (write : α → Json) : Option α → Json
  | some a => write a
  | none => null

/-- A list of values. -/
def list {α : Type} (write : α → Json) (values : List α) : Json := array (values.map write)

end Json
end StageRuns
