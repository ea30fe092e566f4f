/-
# Which instances to run again

A request is a list of names. A name stands for the instance that has it, or
else for all instances made of the job of that name; letters A to Z compare
without case. A request must name something, and each of its names must stand
for something. The selected instances fall into groups, one for each job.

Key definitions: `Stage.isNamed`, `Stage.selects`, `Stage.checkRequest`,
`RerunGroup`, `RerunGroup.ofInstances`.
-/
import StageRuns.InstanceName
import StageRuns.Stage

namespace StageRuns

namespace Stage

/-- Does the name stand for the instance? -/
def isNamed (stage : Stage) (name : String) (job : JobInstance) : Bool :=
  if stage.jobs.has name then Text.sameName job.name name else Text.sameName job.baseName name

/-- Does the name stand for an instance of the stage? -/
def knows (stage : Stage) (name : String) : Bool := stage.jobs.members.any (stage.isNamed name)

/-- Is the instance one of those that the request names? -/
def selects (stage : Stage) (request : List String) (job : JobInstance) : Bool :=
  request.any fun name => stage.isNamed name job

/-- The instances that the request names, in the order of the stage. -/
def selected (stage : Stage) (request : List String) : List JobInstance :=
  stage.jobs.members.filter (stage.selects request)

/-- The request must not be empty, and must name instances only. -/
def checkRequest (stage : Stage) (request : List String) : Except Failure Unit :=
  if request.isEmpty then .error (.invalidArgument "No job was selected to re-run.")
  else match request.find? fun name => !stage.knows name with
    | some name =>
      .error (.invalidArgument
        ("Job '" ++ name ++ "' does not exist in stage '" ++ stage.name ++ "'."))
    | none => .ok ()

end Stage

/-- Were the two instances made of the same job? -/
def JobInstance.isSibling (a b : JobInstance) : Bool := Text.sameName a.baseName b.baseName

/-- The instances of a list that were made of other jobs. -/
def JobInstance.strangers (a : JobInstance) (js : List JobInstance) : List JobInstance :=
  js.filter fun k => !a.isSibling k

/-- The selected instances made of one job, in the order of the stage. -/
structure RerunGroup where
  first : JobInstance
  others : List JobInstance
deriving Repr, DecidableEq

namespace RerunGroup

/-- The name of the job, as the first instance has it. -/
def base (g : RerunGroup) : String := g.first.baseName

/-- All instances of the group. -/
def members (g : RerunGroup) : List JobInstance := g.first :: g.others

/-- The groups of instances, in the order of their first ones. -/
def ofInstances : List JobInstance → List RerunGroup
  | [] => []
  | j :: js => ⟨j, js.filter j.isSibling⟩ :: ofInstances (j.strangers js)
termination_by js => js.length
decreasing_by exact Nat.lt_succ_of_le (List.length_filter_le _ js)

end RerunGroup
end StageRuns
