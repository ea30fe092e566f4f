/-
# The schema of pipeline configuration

What a configuration may hold, as a JSON schema of draft 7: for each type its
parts in the order of their names, with the default of those that may be left
out. A reference to a type cannot stand beside a default, so it is wrapped
where it has one. The lower bound of a count is written as a fraction.

Key definitions: `Cli.Schema.Node`, `Cli.Schema.Part`, `Cli.Schema.object`,
`Cli.Schema.pipeline`, `Cli.Schema.render`.
-/
import StageRuns.Codec.Config

namespace StageRuns
namespace Cli
namespace Schema

/-- A JSON value as a schema needs it. -/
inductive Node where
  | value (json : Json)
  /-- The number zero with a point. -/
  | zeroPoint
  | array (items : List Node)
  | object (members : List (String × Node))

namespace Node

mutual

/-- The characters of a node that stands at a depth. -/
def chars (depth : Nat) : Node → List Char
  | value json => Json.indentedChars depth json
  | zeroPoint => ['0', '.', '0']
  | array [] => ['[', ']']
  | array (item :: items) =>
    '[' :: Json.newLine (depth + 1) ++ chars (depth + 1) item ++ itemChars depth items
  | object [] => ['\x7b', '\x7d']
  | object ((key, node) :: members) =>
    '\x7b' :: Json.newLine (depth + 1) ++ Json.quoted key ++ ':' :: ' ' ::
      chars (depth + 1) node ++ memberChars depth members

/-- The items that follow the first one, and the closing bracket. -/
def itemChars (depth : Nat) : List Node → List Char
  | [] => Json.newLine depth ++ [']']
  | item :: items =>
    ',' :: Json.newLine (depth + 1) ++ chars (depth + 1) item ++ itemChars depth items

/-- The members that follow the first one, and the closing brace. -/
def memberChars (depth : Nat) : List (String × Node) → List Char
  | [] => Json.newLine depth ++ ['\x7d']
  | (key, node) :: members =>
    ',' :: Json.newLine (depth + 1) ++ Json.quoted key ++ ':' :: ' ' ::
      chars (depth + 1) node ++ memberChars depth members

end

/-- A text. -/
def text (s : String) : Node := value (.text s)

end Node

/-! ### Forms of values -/

/-- The members of a schema. -/
abbrev Form := List (String × Node)

/-- A value of a basic type. -/
def basic (type : String) : Form := [("type", .text type)]

/-- A value of a basic type, or null. -/
def orNull (type : String) : Form := [("type", .array [.text type, .text "null"])]

/-- A count of 32 bits, or null. -/
def countOrNull : Form := orNull "integer" ++ [("format", .text "uint32"), ("minimum", .zeroPoint)]

/-- A value of a defined type. -/
def reference (type : String) : Form := [("$ref", .text ("#/definitions/" ++ type))]

/-- A list of values of a form. -/
def listOf (item : Form) : Form := basic "array" ++ [("items", .object item)]

/-- One of a few names. -/
def oneOf (names : List String) : Form :=
  basic "string" ++ [("enum", .array (names.map .text))]

/-- The form with a default. -/
def withDefault (default : Json) (form : Form) : Form :=
  match form with
  | [("$ref", type)] =>
    [("default", .value default), ("allOf", .array [.object [("$ref", type)]])]
  | form => ("default", .value default) :: form

/-- An object with parts, of which some must be there. -/
def object (required : List String) (parts : List (String × Form)) : Form :=
  basic "object" ++ [("required", .array (required.map .text)),
    ("properties", .object (parts.map fun p => (p.1, .object p.2)))]

/-! ### The types of a configuration -/

/-- A part that is a text. -/
def textPart : Form := basic "string"

/-- A part that is a text or left out. -/
def optionalText : Form := withDefault .null (orNull "string")

/-- A part that is a count or left out. -/
def optionalCount : Form := withDefault .null countOrNull

/-- A part that is a truth value with a default. -/
def flag (default : Bool) : Form := withDefault (.bool default) (basic "boolean")

/-- A part that is a list, which is empty if it is left out. -/
def optionalList (item : Form) : Form := withDefault (.array []) (listOf item)

/-- A part that is a list of variables. -/
def environment : Form := optionalList (reference "EnvironmentVariable")

/-- An approval. -/
def approval : Form :=
  ("description", .text "How a stage is allowed to start once its predecessor passes.") ::
    oneOf (ApprovalType.all.map ApprovalType.text)

/-- An artifact. -/
def artifact : Form :=
  object ["source"] [
    ("destination", optionalText),
    ("kind", withDefault (.text ArtifactKind.build.text) (reference "ArtifactKind")),
    ("source", textPart)]

/-- A variable. -/
def variableForm : Form :=
  object ["name", "value"] [("name", textPart), ("secure", flag false), ("value", textPart)]

/-- A job. -/
def job : Form :=
  object ["name"] [
    ("artifacts", optionalList (reference "ArtifactConfig")),
    ("elastic_profile_id", optionalText),
    ("name", textPart),
    ("resources", optionalList textPart),
    ("run_instance_count", optionalCount),
    ("run_on_all_agents", flag false),
    ("timeout_minutes", optionalCount),
    ("variables", environment)]

/-- A material. -/
def material : Form :=
  object ["kind", "name"] [
    ("kind", reference "MaterialKind"), ("name", textPart), ("url", optionalText)]

/-- A stage. -/
def stage : Form :=
  object ["jobs", "name"] [
    ("approval", withDefault (.text ApprovalType.success.text) (reference "ApprovalType")),
    ("clean_working_dir", flag false),
    ("fetch_materials", flag true),
    ("jobs", listOf (reference "JobConfig")),
    ("name", textPart),
    ("variables", environment)]

/-- The types that others refer to, in the order of their names. -/
def definitions : List (String × Form) :=
  [("ApprovalType", approval), ("ArtifactConfig", artifact),
    ("ArtifactKind", oneOf (ArtifactKind.all.map ArtifactKind.text)),
    ("EnvironmentVariable", variableForm), ("JobConfig", job), ("MaterialConfig", material),
    ("MaterialKind", oneOf (MaterialKind.all.map MaterialKind.text)), ("StageConfig", stage)]

/-- A pipeline. -/
def pipeline : Form :=
  object ["name", "stages"] [
    ("label_template", withDefault (.text defaultLabelTemplate) textPart),
    ("materials", optionalList (reference "MaterialConfig")),
    ("name", textPart),
    ("stages", listOf (reference "StageConfig")),
    ("variables", environment)]

/-- The name of the schema language, which is an address: what stands between its slashes are
the scheme, an empty part, the host, the draft and the document. -/
def draft : String := "/".intercalate ["http:", "", "json-schema.org", "draft-07", "schema#"]

/-- The schema as indented text. -/
def render : String :=
  String.ofList (Node.chars 0 (.object
    ([("$schema", .text draft), ("title", .text "PipelineConfig")] ++ pipeline ++
      [("definitions", .object (definitions.map fun d => (d.1, .object d.2)))])))

end Schema
end Cli
end StageRuns
