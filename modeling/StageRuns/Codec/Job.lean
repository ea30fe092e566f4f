/-
# The written form of jobs

Plans, transitions and instances. The origin of an instance is an object that
names its type, and for a copy the number of the job it carries. The type may
come last, so the other members say what they say without being asked for a
type; they must say something, but count for nothing else. A list of the same
values will do. Instances with one name twice are refused, once all of them are
read.

Key definitions: `JobPlan.toJson`, `JobPlan.decode`, `JobOrigin.decode`,
`JobInstance.toJson`, `JobInstance.decode`, `Jobs.decode`.
-/
import StageRuns.Codec.Agent
import StageRuns.Codec.Cause
import StageRuns.Job.Collection

namespace StageRuns

/-- The written form of a number. -/
def Id.toJson {entity : Entity} (id : Id entity) : Json := .int id.value

/-- The number of a record. -/
def Id.decode {entity : Entity} : Decoder (Id entity) := fun d => (Decode.int d).map Id.mk

/-! ### Plans -/

/-- The written form of an identifier. -/
def JobIdentifier.toJson (i : JobIdentifier) : Json :=
  .object [("pipeline_name", .optional .text i.pipelineName), ("stage_name", .text i.stageName),
    ("job_name", .text i.jobName), ("build_id", i.buildId.toJson)]

/-- An identifier. -/
def JobIdentifier.decode : Decoder JobIdentifier :=
  Decode.record ["pipeline_name", "stage_name", "job_name", "build_id"] fun r =>
    JobIdentifier.mk <$> r.optional "pipeline_name" Decode.text
      <*> r.required "stage_name" Decode.text <*> r.required "job_name" Decode.text
      <*> r.required "build_id" Id.decode

/-- The written form of a planned artifact. -/
def ArtifactPlan.toJson (a : ArtifactPlan) : Json :=
  .object [("source", .text a.source), ("destination", .text a.destination),
    ("kind", .text a.kind.text)]

/-- A planned artifact. -/
def ArtifactPlan.decode : Decoder ArtifactPlan :=
  Decode.record ["source", "destination", "kind"] fun r =>
    ArtifactPlan.mk <$> r.required "source" Decode.text <*> r.required "destination" Decode.text
      <*> r.required "kind" ArtifactKind.decode

/-- The written form of a plan. -/
def JobPlan.toJson (p : JobPlan) : Json :=
  .object [("identifier", p.identifier.toJson), ("resources", .texts p.resources),
    ("artifact_plans", .list ArtifactPlan.toJson p.artifactPlans),
    ("variables", p.environment.toJson),
    ("elastic_profile", .optional ElasticProfile.toJson p.elasticProfile),
    ("cluster_profile", .optional ClusterProfile.toJson p.clusterProfile),
    ("timeout_minutes", .optional .nat p.timeoutMinutes)]

/-- A plan. -/
def JobPlan.decode : Decoder JobPlan :=
  Decode.record ["identifier", "resources", "artifact_plans", "variables", "elastic_profile",
      "cluster_profile", "timeout_minutes"] fun r =>
    JobPlan.mk <$> r.required "identifier" JobIdentifier.decode
      <*> r.withDefault "resources" (Decode.list Decode.text) []
      <*> r.withDefault "artifact_plans" (Decode.list ArtifactPlan.decode) []
      <*> r.withDefault "variables" Variables.decode .empty
      <*> r.optional "elastic_profile" ElasticProfile.decode
      <*> r.optional "cluster_profile" ClusterProfile.decode
      <*> r.optional "timeout_minutes" Decode.count

/-! ### Life cycle -/

/-- A state. -/
def JobState.decode : Decoder JobState := Decode.oneOf JobState.text JobState.all

/-- A result. -/
def JobResult.decode : Decoder JobResult := Decode.oneOf JobResult.text JobResult.all

/-- The written form of a transition. -/
def Transition.toJson (t : Transition) : Json :=
  .object [("id", t.id.toJson), ("state", .text t.state.text),
    ("state_change_time", t.time.toJson)]

/-- A transition. -/
def Transition.decode : Decoder Transition :=
  Decode.record ["id", "state", "state_change_time"] fun r =>
    Transition.mk <$> r.required "id" Id.decode <*> r.required "state" JobState.decode
      <*> r.required "state_change_time" Instant.decode

namespace JobOrigin

/-- The written form of an origin. -/
def toJson : JobOrigin → Json
  | scheduled => .object [("type", .text "scheduled")]
  | rerun => .object [("type", .text "rerun")]
  | copy source => .object [("type", .text "copy"), ("original_job_id", source.toJson)]

/-- Is this the key of the number of the job that a copy carries? Zero is, as the
place of that part; no other value can be a key than a text or a count. -/
def isSourceKey : Document → Except Fault Bool
  | .text s => .ok (s == "original_job_id")
  | .int n => if 0 ≤ n then .ok (n == 0) else .error .malformed
  | _ => .error .malformed

/-- The number of the job that a copy carries, from the members that say it. -/
def sourceOf (ms : List (Document × Document)) : Except Fault (Id .job) := do
  match ← ms.filterM fun m => isSourceKey m.1 with
  | [(_, id)] => Id.decode id
  | _ => .error .malformed

/-- The origin of a type, with what else an object says. -/
def ofMembers (type : String) (ms : List (Document × Document)) : Except Fault JobOrigin :=
  if type = "scheduled" then .ok scheduled
  else if type = "rerun" then .ok rerun
  else if type = "copy" then (sourceOf ms).map copy
  else .error .malformed

/-- The origin of a type, with what else a list says. -/
def ofItems (type : String) (items : List Document) : Except Fault JobOrigin :=
  match items with
  | [] => if type = "copy" then .error .malformed else ofMembers type []
  | [id] => if type = "copy" then (Id.decode id).map copy else .error .malformed
  | _ => .error .malformed

/-- Is this the key of the type? -/
def isTypeKey (key : Document) : Bool :=
  match key.settled? with
  | some (.text s) => s == "type"
  | _ => false

/-- The origin that the members of an object say, of which one is the type. -/
def ofObject (ms : List (Document × Document)) : Except Fault JobOrigin := do
  let (types, others) := ms.partition fun m => isTypeKey m.1
  match types with
  | [(_, type)] =>
    ofMembers (← Decode.text type) (← Decode.orMalformed (Document.settledMembers? others))
  | _ => .error .malformed

/-- The origin that a list says, the type first. -/
def ofList : List Document → Except Fault JobOrigin
  | type :: items => do
    ofItems (← Decode.text type) (← Decode.orMalformed (Document.settledItems? items))
  | [] => .error .malformed

/-- An origin. -/
def decode : Document → Except Fault JobOrigin
  | .tagged tag (.object ms) =>
    if Document.isLocalTag tag then .error .malformed else ofObject ms
  | .tagged tag (.sequence items) =>
    if Document.isLocalTag tag then .error .malformed else ofList items
  | .object ms => ofObject ms
  | .array items => ofList items
  | .sequence items => ofList items
  | _ => .error .malformed

end JobOrigin

/-! ### Instances -/

/-- The written form of an instance. -/
def JobInstance.toJson (j : JobInstance) : Json :=
  .object [("name", .text j.name), ("id", j.id.toJson), ("state", .text j.state.text),
    ("result", .text j.result.text), ("agent_uuid", .optional AgentId.toJson j.agent),
    ("transitions", .list Transition.toJson j.transitions), ("run_type", .text j.runType.text),
    ("origin", j.origin.toJson), ("scheduled_date", j.scheduledDate.toJson),
    ("plan", j.plan.toJson)]

/-- An instance. -/
def JobInstance.decode : Decoder JobInstance :=
  Decode.record ["name", "id", "state", "result", "agent_uuid", "transitions", "run_type",
      "origin", "scheduled_date", "plan"] fun r =>
    JobInstance.mk <$> r.required "name" Decode.text <*> r.required "id" Id.decode
      <*> r.required "state" JobState.decode <*> r.required "result" JobResult.decode
      <*> r.nullable "agent_uuid" AgentId.decode
      <*> r.required "transitions" (Decode.list Transition.decode)
      <*> r.required "run_type" RunType.decode <*> r.required "origin" JobOrigin.decode
      <*> r.required "scheduled_date" Instant.decode <*> r.required "plan" JobPlan.decode

/-- The written form of the instances of a stage. -/
def Jobs.toJson (jobs : Jobs) : Json := .list JobInstance.toJson jobs.members

/-- Instances with distinct names. -/
def Jobs.decode : Decoder Jobs := Decode.checked (Decode.list JobInstance.decode) Jobs.ofList

end StageRuns
