/-
# The written form of stages and pipeline runs

Key definitions: `Stage.toJson`, `Stage.decode`, `Pipeline.toJson`,
`Pipeline.decode`.
-/
import StageRuns.Codec.Job
import StageRuns.Pipeline

namespace StageRuns

/-- The result of a stage. -/
def StageResult.decode : Decoder StageResult := Decode.oneOf StageResult.text StageResult.all

/-- The written form of a stage whose jobs are written in some way. -/
def Stage.toJsonWith (jobs : Json) (s : Stage) : Json :=
  .object [("id", s.id.toJson), ("name", .text s.name), ("jobs", jobs),
    ("approval_type", .text s.approvalType.text), ("approved_by", .text s.approvedBy),
    ("counter", .nat s.counter), ("rerun_of_counter", .optional .nat s.rerunOfCounter),
    ("config_version", .text s.configVersion), ("fetch_materials", .bool s.fetchMaterials),
    ("clean_working_dir", .bool s.cleanWorkingDir), ("created_time", s.createdTime.toJson),
    ("latest_run", .bool s.latestRun)]

/-- The written form of a stage. -/
def Stage.toJson (s : Stage) : Json := s.toJsonWith s.jobs.toJson

/-- A stage. -/
def Stage.decode : Decoder Stage :=
  Decode.record ["id", "name", "jobs", "approval_type", "approved_by", "counter",
      "rerun_of_counter", "config_version", "fetch_materials", "clean_working_dir",
      "created_time", "latest_run"] fun r =>
    Stage.mk <$> r.required "id" Id.decode <*> r.required "name" Decode.text
      <*> r.required "jobs" Jobs.decode <*> r.required "approval_type" ApprovalType.decode
      <*> r.required "approved_by" Decode.text <*> r.required "counter" Decode.count
      <*> r.optional "rerun_of_counter" Decode.count <*> r.required "config_version" Decode.text
      <*> r.withDefault "fetch_materials" Decode.bool true
      <*> r.withDefault "clean_working_dir" Decode.bool false
      <*> r.required "created_time" Instant.decode
      <*> r.withDefault "latest_run" Decode.bool true

/-- The written form of a pipeline run. -/
def Pipeline.toJson (p : Pipeline) : Json :=
  .object [("id", p.id.toJson), ("name", .text p.name), ("counter", .nat p.counter),
    ("label", .optional .text p.label), ("build_cause", p.cause.toJson),
    ("stages", .list Stage.toJson p.stages), ("label_template", .text p.labelTemplate),
    ("variables", p.environment.toJson)]

/-- A pipeline run. -/
def Pipeline.decode : Decoder Pipeline :=
  Decode.record ["id", "name", "counter", "label", "build_cause", "stages", "label_template",
      "variables"] fun r =>
    Pipeline.mk <$> r.required "id" Id.decode <*> r.required "name" Decode.text
      <*> r.required "counter" Decode.count <*> r.optional "label" Decode.text
      <*> r.required "build_cause" BuildCause.decode
      <*> r.required "stages" (Decode.list Stage.decode)
      <*> r.required "label_template" Decode.text
      <*> r.withDefault "variables" Variables.decode .empty

end StageRuns
