/-
# The jobs of a stage

The instances of a stage stand in order, and no two have the same name up to
the case of the letters A to Z. Instances are added one by one: when a name is
taken, what was added before stays.

Key definitions: `Jobs`, `Jobs.byName?`, `Jobs.add`, `Jobs.append`,
`Jobs.appended`, `Jobs.ofList`.
-/
import StageRuns.Job.Instance
import StageRuns.Text.LetterCase

namespace StageRuns

/-- The instances of a stage in order. -/
structure Jobs where
  members : List JobInstance := []
deriving Repr, DecidableEq, Inhabited

namespace Jobs

/-- No instances. -/
def empty : Jobs := ⟨[]⟩

/-- The names in order. -/
def names (jobs : Jobs) : List String := jobs.members.map (·.name)

/-- The instance of a name. -/
def byName? (jobs : Jobs) (name : String) : Option JobInstance :=
  jobs.members.find? fun j => Text.sameName j.name name

/-- Is the name taken? -/
def has (jobs : Jobs) (name : String) : Bool := (jobs.byName? name).isSome

/-- The instances with one more, unless its name is taken. -/
def add (jobs : Jobs) (job : JobInstance) : Except Failure Jobs :=
  if jobs.has job.name then .error (.duplicateJob job.name) else .ok ⟨jobs.members ++ [job]⟩

/-- The instances after adding others one by one, up to the first whose name is
taken, and the failure to add that one. -/
def append (jobs : Jobs) : List JobInstance → Jobs × Option Failure
  | [] => (jobs, none)
  | job :: more =>
    match jobs.add job with
    | .ok jobs => jobs.append more
    | .error failure => (jobs, some failure)

/-- The instances with all of the others added, or the failure to do so. -/
def appended (jobs : Jobs) (more : List JobInstance) : Except Failure Jobs :=
  match jobs.append more with
  | (jobs, none) => .ok jobs
  | (_, some failure) => .error failure

/-- The listed instances, if no name is there twice. -/
def ofList (jobs : List JobInstance) : Except Failure Jobs := empty.appended jobs

/-- The jobs with a change to the one of a name. -/
def updateFirst (name : String) (change : JobInstance → JobInstance) :
    List JobInstance → List JobInstance
  | [] => []
  | j :: js => if Text.sameName j.name name then change j :: js else j :: updateFirst name change js

/-- The instances with the one of a name replaced. -/
def replace (jobs : Jobs) (name : String) (job : JobInstance) : Jobs :=
  ⟨updateFirst name (fun _ => job) jobs.members⟩

/-- Have all instances ended? -/
def areEnded (jobs : Jobs) : Bool := jobs.members.all fun j => !j.isActive

/-- The results in order. -/
def results (jobs : Jobs) : List JobResult := jobs.members.map (·.result)

end Jobs
end StageRuns
