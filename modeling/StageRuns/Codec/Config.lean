/-
# The written form of configuration

Every part of a configuration is written under its name in the order of
declaration, and a missing value as null. When read, all parts but the names,
the stages and the jobs have defaults. The compact form of a pipeline is what
its fingerprint is taken of.

Key definitions: `PipelineConfig.toJson`, `PipelineConfig.decode`,
`PipelineConfig.fingerprint`.
-/
import StageRuns.Codec.Record
import StageRuns.Config.Pipeline
import StageRuns.Json.Printer

namespace StageRuns

/-! ### Variables -/

/-- The written form of a variable. -/
def Variable.toJson (v : Variable) : Json :=
  .object [("name", .text v.name), ("value", .text v.value), ("secure", .bool v.secure)]

/-- A variable; it is not secure unless it says so. -/
def Variable.decode : Decoder Variable :=
  Decode.record ["name", "value", "secure"] fun r =>
    Variable.mk <$> r.required "name" Decode.text <*> r.required "value" Decode.text
      <*> r.withDefault "secure" Decode.bool false

/-- The written form of variables. -/
def Variables.toJson (vs : Variables) : Json := .list Variable.toJson vs.entries

/-- Variables as they are listed; a name may be there twice. -/
def Variables.decode : Decoder Variables := fun d =>
  (Decode.list Variable.decode d).map Variables.mk

/-! ### Jobs -/

/-- The written form of an artifact. -/
def ArtifactConfig.toJson (a : ArtifactConfig) : Json :=
  .object [("source", .text a.source), ("destination", .optional .text a.destination),
    ("kind", .text a.kind.text)]

/-- The kind of an artifact. -/
def ArtifactKind.decode : Decoder ArtifactKind := Decode.oneOf ArtifactKind.text ArtifactKind.all

/-- An artifact; it is built unless it says otherwise. -/
def ArtifactConfig.decode : Decoder ArtifactConfig :=
  Decode.record ["source", "destination", "kind"] fun r =>
    ArtifactConfig.mk <$> r.required "source" Decode.text <*> r.optional "destination" Decode.text
      <*> r.withDefault "kind" ArtifactKind.decode .build

/-- A run type. -/
def RunType.decode : Decoder RunType := Decode.oneOf RunType.text RunType.all

/-- The written form of a configured job. -/
def JobConfig.toJson (j : JobConfig) : Json :=
  .object [("name", .text j.name), ("resources", .texts j.resources),
    ("artifacts", .list ArtifactConfig.toJson j.artifacts), ("variables", j.environment.toJson),
    ("run_on_all_agents", .bool j.runOnAllAgents),
    ("run_instance_count", .optional .nat j.runInstanceCount),
    ("elastic_profile_id", .optional .text j.elasticProfileId),
    ("timeout_minutes", .optional .nat j.timeoutMinutes)]

/-- A configured job. -/
def JobConfig.decode : Decoder JobConfig :=
  Decode.record ["name", "resources", "artifacts", "variables", "run_on_all_agents",
      "run_instance_count", "elastic_profile_id", "timeout_minutes"] fun r =>
    JobConfig.mk <$> r.required "name" Decode.text
      <*> r.withDefault "resources" (Decode.list Decode.text) []
      <*> r.withDefault "artifacts" (Decode.list ArtifactConfig.decode) []
      <*> r.withDefault "variables" Variables.decode .empty
      <*> r.withDefault "run_on_all_agents" Decode.bool false
      <*> r.optional "run_instance_count" Decode.count
      <*> r.optional "elastic_profile_id" Decode.text
      <*> r.optional "timeout_minutes" Decode.count

/-! ### Stages -/

/-- An approval. -/
def ApprovalType.decode : Decoder ApprovalType := Decode.oneOf ApprovalType.text ApprovalType.all

/-- The written form of a configured stage. -/
def StageConfig.toJson (s : StageConfig) : Json :=
  .object [("name", .text s.name), ("jobs", .list JobConfig.toJson s.jobs),
    ("approval", .text s.approval.text), ("variables", s.environment.toJson),
    ("fetch_materials", .bool s.fetchMaterials), ("clean_working_dir", .bool s.cleanWorkingDir)]

/-- A configured stage. -/
def StageConfig.decode : Decoder StageConfig :=
  Decode.record ["name", "jobs", "approval", "variables", "fetch_materials",
      "clean_working_dir"] fun r =>
    StageConfig.mk <$> r.required "name" Decode.text
      <*> r.required "jobs" (Decode.list JobConfig.decode)
      <*> r.withDefault "approval" ApprovalType.decode .success
      <*> r.withDefault "variables" Variables.decode .empty
      <*> r.withDefault "fetch_materials" Decode.bool true
      <*> r.withDefault "clean_working_dir" Decode.bool false

/-! ### Materials and pipelines -/

/-- The written form of a material. -/
def Material.toJson (m : Material) : Json :=
  .object [("name", .text m.name), ("kind", .text m.kind.text), ("url", .optional .text m.url)]

/-- The kind of a material. -/
def MaterialKind.decode : Decoder MaterialKind := Decode.oneOf MaterialKind.text MaterialKind.all

/-- A material. -/
def Material.decode : Decoder Material :=
  Decode.record ["name", "kind", "url"] fun r =>
    Material.mk <$> r.required "name" Decode.text <*> r.required "kind" MaterialKind.decode
      <*> r.optional "url" Decode.text

/-- The written form of a configured pipeline. -/
def PipelineConfig.toJson (p : PipelineConfig) : Json :=
  .object [("name", .text p.name), ("materials", .list Material.toJson p.materials),
    ("stages", .list StageConfig.toJson p.stages), ("variables", p.environment.toJson),
    ("label_template", .text p.labelTemplate)]

/-- A configured pipeline. -/
def PipelineConfig.decode : Decoder PipelineConfig :=
  Decode.record ["name", "materials", "stages", "variables", "label_template"] fun r =>
    PipelineConfig.mk <$> r.required "name" Decode.text
      <*> r.withDefault "materials" (Decode.list Material.decode) []
      <*> r.required "stages" (Decode.list StageConfig.decode)
      <*> r.withDefault "variables" Variables.decode .empty
      <*> r.withDefault "label_template" Decode.text defaultLabelTemplate

/-- A digest of the compact form, which tells configurations apart. -/
def PipelineConfig.fingerprint (p : PipelineConfig) : String := Hash.sha256 p.toJson.compact

end StageRuns
