/-
# The written form of causes

Instants are written as text. A cause must say its trigger and approver;
revisions and variables may be left out.

Key definitions: `Instant.toJson`, `Instant.decode`, `Modification.toJson`,
`Revisions.decode`, `BuildCause.toJson`, `BuildCause.decode`.
-/
import StageRuns.Cause
import StageRuns.Codec.Config
import StageRuns.Time.Rfc3339

namespace StageRuns

/-- The written form of an instant. -/
def Instant.toJson (t : Instant) : Json := .text t.toText

/-- An instant. -/
def Instant.decode : Decoder Instant := fun d => do
  Decode.orMalformed (Instant.ofText? (← Decode.text d))

/-- The written form of a modification. -/
def Modification.toJson (m : Modification) : Json :=
  .object [("revision", .text m.revision), ("user_name", .optional .text m.userName),
    ("comment", .optional .text m.comment), ("modified_time", m.time.toJson)]

/-- A modification. -/
def Modification.decode : Decoder Modification :=
  Decode.record ["revision", "user_name", "comment", "modified_time"] fun r =>
    Modification.mk <$> r.required "revision" Decode.text <*> r.optional "user_name" Decode.text
      <*> r.optional "comment" Decode.text <*> r.required "modified_time" Instant.decode

/-- The written form of the revisions of a material. -/
def MaterialRevision.toJson (r : MaterialRevision) : Json :=
  .object [("material", r.material.toJson),
    ("modifications", .list Modification.toJson r.modifications), ("changed", .bool r.changed)]

/-- The revisions of a material. -/
def MaterialRevision.decode : Decoder MaterialRevision :=
  Decode.record ["material", "modifications", "changed"] fun r =>
    MaterialRevision.mk <$> r.required "material" Material.decode
      <*> r.required "modifications" (Decode.list Modification.decode)
      <*> r.withDefault "changed" Decode.bool true

/-- The written form of revisions. -/
def Revisions.toJson (rs : Revisions) : Json := .list MaterialRevision.toJson rs.entries

/-- Revisions. -/
def Revisions.decode : Decoder Revisions := fun d =>
  (Decode.list MaterialRevision.decode d).map Revisions.mk

/-- A trigger. -/
def Trigger.decode : Decoder Trigger := Decode.oneOf Trigger.text Trigger.all

/-- The written form of a cause. -/
def BuildCause.toJson (c : BuildCause) : Json :=
  .object [("kind", .text c.kind.text), ("revisions", c.revisions.toJson),
    ("approver", .text c.approver), ("variables", c.environment.toJson)]

/-- A cause. -/
def BuildCause.decode : Decoder BuildCause :=
  Decode.record ["kind", "revisions", "approver", "variables"] fun r =>
    BuildCause.mk <$> r.required "kind" Trigger.decode
      <*> r.withDefault "revisions" Revisions.decode .empty
      <*> r.required "approver" Decode.text
      <*> r.withDefault "variables" Variables.decode .empty

end StageRuns
