/-
# Materials and their revisions

A material is where changes come from: a repository, a package or another
pipeline. Its identity is a fingerprint of its kind and address, whatever it
is called. A run of a pipeline carries revisions: per material the
modifications that came in, the latest first.

Key definitions: `Material`, `Material.fingerprint`, `Modification`,
`MaterialRevision`, `Revisions`, `Revisions.isUnmodified`,
`Revisions.byMaterial?`.
-/
import StageRuns.Hash.Sha256
import StageRuns.Text.LetterCase
import StageRuns.Time.Instant

namespace StageRuns

/-- The kinds of sources. -/
inductive MaterialKind where
  | git
  | svn
  | hg
  | dependency
  | package
deriving Repr, DecidableEq

namespace MaterialKind

/-- The written name of a kind. -/
def text : MaterialKind → String
  | git => "git"
  | svn => "svn"
  | hg => "hg"
  | dependency => "dependency"
  | package => "package"

/-- All kinds. -/
def all : List MaterialKind := [git, svn, hg, dependency, package]

end MaterialKind

/-- A source of changes. -/
structure Material where
  name : String
  kind : MaterialKind
  url : Option String := none
deriving Repr, DecidableEq

/-- The address of a material, or its name if it has none. -/
def Material.address (m : Material) : String := m.url.getD m.name

/-- What the fingerprint of a material is taken of. -/
def Material.identity (m : Material) : String := m.kind.text ++ "<|>" ++ m.address

/-- The identity of a material as a digest. -/
def Material.fingerprint (m : Material) : String := Hash.sha256 m.identity

/-- A change to a material. -/
structure Modification where
  revision : String
  userName : Option String := none
  comment : Option String := none
  time : Instant
deriving Repr, DecidableEq

/-- The modifications of one material, the latest first. -/
structure MaterialRevision where
  material : Material
  modifications : List Modification
  changed : Bool := true
deriving Repr, DecidableEq

namespace MaterialRevision

/-- The latest modification. -/
def latest? (r : MaterialRevision) : Option Modification := r.modifications.head?

/-- The latest revision. -/
def revision? (r : MaterialRevision) : Option String := r.latest?.map (·.revision)

/-- The first characters of the latest revision. -/
def shortRevision? (r : MaterialRevision) (length : Nat) : Option String :=
  r.revision?.map fun s => String.ofList (s.toList.take length)

end MaterialRevision

/-- The revisions that a run carries. -/
structure Revisions where
  entries : List MaterialRevision := []
deriving Repr, DecidableEq, Inhabited

namespace Revisions

/-- No revisions. -/
def empty : Revisions := ⟨[]⟩

/-- The revisions with those of one more material. -/
def add (rs : Revisions) (r : MaterialRevision) : Revisions := ⟨rs.entries ++ [r]⟩

/-- Has no material a modification? -/
def isUnmodified (rs : Revisions) : Bool := rs.entries.all fun r => r.modifications.isEmpty

/-- The first revisions of a material of this name. -/
def byMaterial? (rs : Revisions) (name : String) : Option MaterialRevision :=
  rs.entries.find? fun r => Text.sameName r.material.name name

/-- Are there revisions of this very material, whatever it is called? -/
def carries (rs : Revisions) (m : Material) : Bool :=
  rs.entries.any fun r => r.material.fingerprint == m.fingerprint

end Revisions
end StageRuns
