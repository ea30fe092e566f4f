/-
# Names of instances

The instances of a job that runs on all agents, or a number of times, are
named after the job with a marker and an index from 1 on. `InstanceName.parse`
takes such a name apart at the last marker of the run type; a name without
marker and index is the name of the job itself. `Numbering` hands out names one
after the other.

Key definitions: `marker?`, `instanceName`, `InstanceName`,
`InstanceName.parse`, `Numbering`, `Numbering.next`.
-/
import StageRuns.Config.Job
import StageRuns.Job.Instance
import StageRuns.Text.Digit

namespace StageRuns

/-- The marker between the name of a job and an index. -/
def marker? : RunType → Option String
  | .single => none
  | .runOnAllAgents => some "-runOnAll-"
  | .runMultipleInstance => some "-runInstance-"

/-- The marker, or nothing for jobs that run once. -/
def marker (runType : RunType) : String := (marker? runType).getD ""

/-- The name of the instance of an index. -/
def instanceName (base : String) (runType : RunType) (index : Nat) : String :=
  base ++ marker runType ++ String.ofList (Text.digitsOfNat index)

/-- The name of a job and, for an instance that was named by index, the
index. -/
structure InstanceName where
  base : String
  index : Option Nat
deriving Repr, DecidableEq

namespace InstanceName

/-- The characters before and after the last occurrence of `mark`. -/
def splitLast? (mark : List Char) : List Char → Option (List Char × List Char)
  | [] => if mark.isEmpty then some ([], []) else none
  | c :: cs =>
    match splitLast? mark cs with
    | some (before, after) => some (c :: before, after)
    | none => if mark.isPrefixOf (c :: cs) then some ([], (c :: cs).drop mark.length) else none

/-- The first number that is no index: indices have 32 bits. -/
def indexLimit : Nat := 0x100000000

/-- An index of 32 bits in ASCII digits. -/
def index? (cs : List Char) : Option Nat :=
  (Text.natOfDigits? cs).filter fun n => n < indexLimit

/-- The parts of a name at a marker. -/
def split? (mark name : String) : Option InstanceName :=
  match splitLast? mark.toList name.toList with
  | some (c :: before, after) => (index? after).map fun n => ⟨String.ofList (c :: before), some n⟩
  | _ => none

/-- The parts of the name of an instance of a run type. -/
def parse (name : String) (runType : RunType) : InstanceName :=
  ((marker? runType).bind fun mark => split? mark name).getD ⟨name, none⟩

end InstanceName

/-- The name of the job that the instance was made of. -/
def JobInstance.baseName (job : JobInstance) : String :=
  (InstanceName.parse job.name job.runType).base

/-- The index of the instance in its name. -/
def JobInstance.index? (job : JobInstance) : Option Nat :=
  (InstanceName.parse job.name job.runType).index

/-- A source of names for the instances of a job. It counts on without an end; where 32 bits
matter, they are asked of what it gives out. -/
structure Numbering where
  base : String
  runType : RunType
  last : Nat := 0
deriving Repr, DecidableEq

namespace Numbering

/-- The next name, and the source after it. -/
def next (n : Numbering) : String × Numbering :=
  (instanceName n.base n.runType (n.last + 1), { n with last := n.last + 1 })

/-- The next names, one for each of `count`, and the source after them. -/
def take (n : Numbering) : Nat → List String × Numbering
  | 0 => ([], n)
  | count + 1 =>
    let (name, n) := n.next
    let (names, n) := n.take count
    (name :: names, n)

end Numbering
end StageRuns
