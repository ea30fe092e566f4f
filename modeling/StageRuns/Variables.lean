/-
# Environment variables

Variables are kept in the order in which they were declared. Adding a variable
of a name that is there already replaces its value in place, so that adding
never makes a name occur twice; a list that was read from outside may hold a
name twice, and then the first one counts. Layers are merged by
`Variables.overriddenBy`: the upper layer wins and new names go to the end.

Key definitions: `Variable`, `Variables`, `Variables.add`, `Variables.get?`,
`Variables.overriddenBy`, `Variables.inFront`.
-/
namespace StageRuns

/-- A variable of the environment that a job runs in. -/
structure Variable where
  name : String
  value : String
  secure : Bool := false
deriving Repr, DecidableEq

/-- The value as it may be shown: that of a secure variable is masked. -/
def Variable.shown (v : Variable) : String := if v.secure then "****" else v.value

/-- Variables in the order of their declaration. -/
structure Variables where
  entries : List Variable := []
deriving Repr, DecidableEq, Inhabited

namespace Variables

/-- No variables. -/
def empty : Variables := ⟨[]⟩

/-- The names in order. -/
def names (vs : Variables) : List String := vs.entries.map (·.name)

/-- The first value of a name. -/
def get? (vs : Variables) (name : String) : Option String :=
  (vs.entries.find? fun v => v.name == name).map (·.value)

/-- Has the name this value? -/
def contains (vs : Variables) (name value : String) : Bool := vs.get? name == some value

/-- The variable at a position. -/
def at? (vs : Variables) (position : Nat) : Option Variable := vs.entries[position]?

/-- The entries with `v` in the place of the first one of its name, or at the
end. -/
def put (v : Variable) : List Variable → List Variable
  | [] => [v]
  | w :: ws => if w.name = v.name then v :: ws else w :: put v ws

/-- The variables with one more, or with a new value for its name. -/
def add (vs : Variables) (v : Variable) : Variables := ⟨put v vs.entries⟩

/-- The variables with a name set to a value that is not secure. -/
def set (vs : Variables) (name value : String) : Variables := vs.add ⟨name, value, false⟩

/-- The variables added one by one. -/
def addAll (vs : Variables) (more : List Variable) : Variables := more.foldl add vs

/-- The variables that result from adding each of a list to none. -/
def ofList (entries : List Variable) : Variables := empty.addAll entries

/-- These variables with those of an upper layer on top. -/
def overriddenBy (vs upper : Variables) : Variables := vs.addAll upper.entries

/-- The last variable of each name, in the order of those. -/
def latest (entries : List Variable) : List Variable :=
  entries.foldl (fun kept v => kept.filter (fun w => w.name != v.name) ++ [v]) []

/-- These variables with others in front, which replace those of their
names. -/
def inFront (vs : Variables) (front : List Variable) : Variables :=
  let kept := latest front
  ⟨kept ++ vs.entries.filter fun v => !kept.any fun w => w.name == v.name⟩

end Variables
end StageRuns
