/-
# Configurations are read back

Every part of a configuration is read from all documents that say it
(`PipelineConfig.reads`): its records may have their parts in any order and members of
other names, and a part that is its default may be left out. What is written is not too
deep to be read (`PipelineConfig.readable`).

Key definitions: `PipelineConfig.shape`, `PipelineConfig.Fits`.
Key theorems: `JobConfig.reads`, `StageConfig.reads`, `Material.reads`,
`PipelineConfig.reads`, `PipelineConfig.readable`.
-/
import StageRuns.Codec.Config
import StageRuns.Proofs.Codec.Shape
import StageRuns.Proofs.Json.Reading

namespace StageRuns

open Json

variable {room : Nat}

/-! ### Variables -/

/-- A variable is not secure unless it says so. -/
def Variable.shape : Shape :=
  .record [("name", none, .leaf), ("value", none, .leaf), ("secure", some (.bool false), .leaf)]

theorem Variable.reads (v : Variable) : Reads Variable.decode Variable.shape v.toJson v :=
  reads_record rfl rfl (by decide) fun r _ ⟨hname, hvalue, hsecure, _⟩ => by
    rw [hname.required (reads_text v.name), hvalue.required (reads_text v.value),
      hsecure.withDefault (reads_bool v.secure) Json.bool.inj]
    rfl

theorem Variable.readable (v : Variable) : Readable (room + 1) v.toJson :=
  readable_object ⟨.text, .text, .bool, trivial⟩

/-- Variables are a list of records. -/
def Variables.shape : Shape := .list Variable.shape

theorem Variables.reads (vs : Variables) : Reads Variables.decode Variables.shape vs.toJson vs :=
  (reads_list fun v _ => Variable.reads v).map Variables.mk

theorem Variables.readable (vs : Variables) : Readable (room + 2) vs.toJson :=
  readable_list fun v _ => Variable.readable v

theorem Variables.eq_empty_of_toJson {vs : Variables} (h : Json.array [] = vs.toJson) :
    Variables.empty = vs :=
  congrArg Variables.mk (eq_nil_of_list h)

/-! ### Jobs -/

theorem ArtifactKind.find?_text (k : ArtifactKind) :
    ArtifactKind.all.find? (fun b => b.text == k.text) = some k := by
  cases k <;> rfl

theorem ArtifactKind.reads (k : ArtifactKind) : Reads ArtifactKind.decode .leaf (.text k.text) k :=
  reads_oneOf ArtifactKind.find?_text k

/-- An artifact is built and goes to no place of its own, unless it says otherwise. -/
def ArtifactConfig.shape : Shape :=
  .record [("source", none, .leaf), ("destination", some .null, .leaf),
    ("kind", some (.text ArtifactKind.build.text), .leaf)]

theorem ArtifactConfig.reads (a : ArtifactConfig) :
    Reads ArtifactConfig.decode ArtifactConfig.shape a.toJson a :=
  reads_record rfl rfl (by decide) fun r _ ⟨hsource, hdestination, hkind, _⟩ => by
    rw [hsource.required (reads_text a.source),
      hdestination.optional (fun _ => nofun) fun s _ => reads_text s,
      hkind.withDefault a.kind.reads (eq_of_name_eq ArtifactKind.find?_text)]
    rfl

theorem ArtifactConfig.readable (a : ArtifactConfig) : Readable (room + 1) a.toJson :=
  readable_object ⟨.text, readable_optional fun _ _ => .text, .text, trivial⟩

/-- All parts of a configured job but its name have defaults. -/
def JobConfig.shape : Shape :=
  .record [("name", none, .leaf), ("resources", some (.array []), .leaf),
    ("artifacts", some (.array []), .list ArtifactConfig.shape),
    ("variables", some (.array []), Variables.shape),
    ("run_on_all_agents", some (.bool false), .leaf), ("run_instance_count", some .null, .leaf),
    ("elastic_profile_id", some .null, .leaf), ("timeout_minutes", some .null, .leaf)]

/-- The counts of the job have 32 bits. -/
structure JobConfig.Fits (j : JobConfig) : Prop where
  runInstanceCount : ∀ n ∈ j.runInstanceCount, n ≤ 0xffffffff
  timeoutMinutes : ∀ n ∈ j.timeoutMinutes, n ≤ 0xffffffff

theorem JobConfig.reads {j : JobConfig} (h : j.Fits) :
    Reads JobConfig.decode JobConfig.shape j.toJson j :=
  reads_record rfl rfl (by decide)
      fun r _ ⟨hname, hresources, hartifacts, hvariables, hall, hcount, hprofile, htimeout, _⟩ => by
    rw [hname.required (reads_text j.name),
      hresources.withDefault (reads_texts j.resources) eq_nil_of_list,
      hartifacts.withDefault (reads_list fun a _ => ArtifactConfig.reads a) eq_nil_of_list,
      hvariables.withDefault j.environment.reads Variables.eq_empty_of_toJson,
      hall.withDefault (reads_bool j.runOnAllAgents) Json.bool.inj,
      hcount.optional (fun _ => nofun) fun n hn => reads_count (h.runInstanceCount n hn),
      hprofile.optional (fun _ => nofun) fun s _ => reads_text s,
      htimeout.optional (fun _ => nofun) fun n hn => reads_count (h.timeoutMinutes n hn)]
    rfl

theorem JobConfig.readable {j : JobConfig} (h : j.Fits) : Readable (room + 3) j.toJson :=
  readable_object ⟨.text, readable_texts j.resources,
    readable_list fun a _ => ArtifactConfig.readable a, j.environment.readable, .bool,
    readable_optional fun n hn => readable_nat (h.runInstanceCount n hn),
    readable_optional fun _ _ => .text,
    readable_optional fun n hn => readable_nat (h.timeoutMinutes n hn), trivial⟩

/-! ### Stages -/

theorem ApprovalType.find?_text (a : ApprovalType) :
    ApprovalType.all.find? (fun b => b.text == a.text) = some a := by
  cases a <;> rfl

theorem ApprovalType.reads (a : ApprovalType) : Reads ApprovalType.decode .leaf (.text a.text) a :=
  reads_oneOf ApprovalType.find?_text a

/-- A configured stage fetches materials and starts by itself, unless it says otherwise. -/
def StageConfig.shape : Shape :=
  .record [("name", none, .leaf), ("jobs", none, .list JobConfig.shape),
    ("approval", some (.text ApprovalType.success.text), .leaf),
    ("variables", some (.array []), Variables.shape),
    ("fetch_materials", some (.bool true), .leaf),
    ("clean_working_dir", some (.bool false), .leaf)]

/-- The counts of the jobs have 32 bits. -/
def StageConfig.Fits (s : StageConfig) : Prop := ∀ j ∈ s.jobs, j.Fits

theorem StageConfig.reads {s : StageConfig} (h : s.Fits) :
    Reads StageConfig.decode StageConfig.shape s.toJson s :=
  reads_record rfl rfl (by decide)
      fun r _ ⟨hname, hjobs, happroval, hvariables, hfetch, hclean, _⟩ => by
    rw [hname.required (reads_text s.name),
      hjobs.required (reads_list fun j hj => JobConfig.reads (h j hj)),
      happroval.withDefault s.approval.reads (eq_of_name_eq ApprovalType.find?_text),
      hvariables.withDefault s.environment.reads Variables.eq_empty_of_toJson,
      hfetch.withDefault (reads_bool s.fetchMaterials) Json.bool.inj,
      hclean.withDefault (reads_bool s.cleanWorkingDir) Json.bool.inj]
    rfl

theorem StageConfig.readable {s : StageConfig} (h : s.Fits) : Readable (room + 5) s.toJson :=
  readable_object ⟨.text, readable_list fun j hj => JobConfig.readable (h j hj), .text,
    s.environment.readable, .bool, .bool, trivial⟩

/-! ### Materials and pipelines -/

theorem MaterialKind.reads (k : MaterialKind) : Reads MaterialKind.decode .leaf (.text k.text) k :=
  reads_oneOf (fun k => by cases k <;> rfl) k

/-- A material may have no address. -/
def Material.shape : Shape :=
  .record [("name", none, .leaf), ("kind", none, .leaf), ("url", some .null, .leaf)]

theorem Material.reads (m : Material) : Reads Material.decode Material.shape m.toJson m :=
  reads_record rfl rfl (by decide) fun r _ ⟨hname, hkind, hurl, _⟩ => by
    rw [hname.required (reads_text m.name),
      hkind.required m.kind.reads,
      hurl.optional (fun _ => nofun) fun s _ => reads_text s]
    rfl

theorem Material.readable (m : Material) : Readable (room + 1) m.toJson :=
  readable_object ⟨.text, .text, readable_optional fun _ _ => .text, trivial⟩

/-- A configured pipeline has a name and stages, and defaults for all else. -/
def PipelineConfig.shape : Shape :=
  .record [("name", none, .leaf), ("materials", some (.array []), .list Material.shape),
    ("stages", none, .list StageConfig.shape), ("variables", some (.array []), Variables.shape),
    ("label_template", some (.text defaultLabelTemplate), .leaf)]

/-- The counts of all jobs have 32 bits. -/
def PipelineConfig.Fits (p : PipelineConfig) : Prop := ∀ s ∈ p.stages, s.Fits

/-- A configuration is read from every document that says it. -/
theorem PipelineConfig.reads {p : PipelineConfig} (h : p.Fits) :
    Reads PipelineConfig.decode PipelineConfig.shape p.toJson p :=
  reads_record rfl rfl (by decide)
      fun r _ ⟨hname, hmaterials, hstages, hvariables, htemplate, _⟩ => by
    rw [hname.required (reads_text p.name),
      hmaterials.withDefault (reads_list fun m _ => Material.reads m) eq_nil_of_list,
      hstages.required (reads_list fun s hs => StageConfig.reads (h s hs)),
      hvariables.withDefault p.environment.reads Variables.eq_empty_of_toJson,
      htemplate.withDefault (reads_text p.labelTemplate) Json.text.inj]
    rfl

theorem PipelineConfig.readable {p : PipelineConfig} (h : p.Fits) :
    Readable (room + 7) p.toJson :=
  readable_object ⟨.text, readable_list fun m _ => Material.readable m,
    readable_list fun s hs => StageConfig.readable (h s hs), p.environment.readable, .text, trivial⟩

end StageRuns
