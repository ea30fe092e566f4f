/-
# Why a pipeline runs

A run has a cause: modifications of its materials, a user who forced it, or
nothing yet. The cause carries the revisions to build, who approved the run,
and variables that override those of the pipeline. Its summary is one line for
a reader, and the cause can be checked against the materials of a pipeline.

Key definitions: `Trigger`, `BuildCause`, `BuildCause.summary`,
`BuildCause.checkMaterials`, `BuildCause.checkPipeline`,
`isDependencyRevision`.
-/
import StageRuns.Config.Pipeline
import StageRuns.Failure

namespace StageRuns

/-- What made a pipeline run. -/
inductive Trigger where
  | modification
  | manualForced
  | neverRun
deriving Repr, DecidableEq

namespace Trigger

/-- The written name of a trigger. -/
def text : Trigger → String
  | modification => "modification"
  | manualForced => "manual_forced"
  | neverRun => "never_run"

/-- All triggers. -/
def all : List Trigger := [modification, manualForced, neverRun]

end Trigger

/-- The name of the user that stands for nobody in particular. -/
def anonymousUser : String := "anonymous"

/-- Does the name, in any case, stand for nobody in particular? -/
def isAnonymous (user : String) : Bool := Text.sameName user anonymousUser

/-- The parts of a text between slashes. -/
def slashParts : List Char → List (List Char)
  | [] => [[]]
  | c :: cs =>
    match slashParts cs with
    | [] => [[c]]
    | part :: parts => if c = '/' then [] :: part :: parts else (c :: part) :: parts

/-- Is the part made of decimal digits of any script? -/
def isDigits (part : List Char) : Bool := !part.isEmpty && part.all Text.isDecimalDigit

/-- Is this the revision of a stage of another pipeline: pipeline, counter,
stage and counter with slashes between? -/
def isDependencyRevision (revision : String) : Bool :=
  match slashParts revision.toList with
  | [pipeline, counter, stage, run] =>
    !pipeline.isEmpty && isDigits counter && !stage.isEmpty && isDigits run
  | _ => false

/-- Why a pipeline runs. -/
structure BuildCause where
  kind : Trigger
  revisions : Revisions := .empty
  approver : String
  environment : Variables := .empty
deriving Repr, DecidableEq

namespace BuildCause

/-- A cause of modified materials. -/
def withModifications (revisions : Revisions) (approver : String) : BuildCause :=
  ⟨.modification, revisions, approver, .empty⟩

/-- A cause of modified materials without any. -/
def withEmptyModifications : BuildCause := withModifications .empty ""

/-- The cause of a pipeline that did not run. -/
def neverRun : BuildCause := ⟨.neverRun, .empty, "", .empty⟩

/-- A cause forced by a user, who must be named. -/
def manualForced (revisions : Revisions) : Option String → Except Failure BuildCause
  | some approver => .ok ⟨.manualForced, revisions, approver, .empty⟩
  | none => .error (.invalidArgument "Username cannot be null; use the anonymous user instead")

/-- Did a user force the run? -/
def isForced (cause : BuildCause) : Bool := cause.kind == .manualForced

/-- The author of the latest modification of the first material that has
one. -/
def author? (cause : BuildCause) : Option String :=
  (cause.revisions.entries.findSome? (·.latest?)).bind (·.userName)

/-- The revision of the stage that triggered the run, if the cause carries that
one alone. -/
def dependencyRevision? (cause : BuildCause) : Option String :=
  match cause.revisions.entries with
  | [r] => r.revision?.filter isDependencyRevision
  | _ => none

/-- The cause in one line. -/
def summary (cause : BuildCause) : String :=
  if cause.isForced then
    "Forced by " ++ (if isAnonymous cause.approver then anonymousUser else cause.approver)
  else if cause.revisions.isUnmodified then "No modifications"
  else match cause.dependencyRevision? with
    | some revision => "triggered by " ++ revision
    | none => "modified by " ++ cause.author?.getD "unknown"

/-- The materials that the cause does not carry. -/
def missing (cause : BuildCause) (materials : List Material) : List Material :=
  materials.filter fun m => !cause.revisions.carries m

/-- The cause must carry all materials; it may carry more. -/
def checkMaterials (cause : BuildCause) (materials : List Material) : Except Failure Unit :=
  match cause.missing materials with
  | [] => .ok ()
  | ms => .error (.materialsMismatch (ms.map (·.name)))

/-- A cause that carries revisions must carry all materials of the pipeline. -/
def checkPipeline (cause : BuildCause) (pipeline : PipelineConfig) : Except Failure Unit :=
  if cause.revisions.entries.isEmpty then .ok () else cause.checkMaterials pipeline.materials

/-- Is one of the carried materials another pipeline? -/
def hasDependency (cause : BuildCause) : Bool :=
  cause.revisions.entries.any fun r => r.material.kind == .dependency

end BuildCause
end StageRuns
