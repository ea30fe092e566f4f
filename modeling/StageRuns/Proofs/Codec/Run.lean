/-
# Causes, agents, jobs and stages are read back

What the library makes is read from all documents that say it, if it keeps the bounds of
its types: numbers of records have 64 bits with sign, counts have 32, instants are of years
in range, and the collections are what a reader would make of them, namely tags and
properties in order and no identity or name of a job twice (`Stage.Fits`, `Agents.Fits` and
the definitions beside them).

Key definitions: `BuildCause.Fits`, `Agents.Fits`, `JobInstance.Fits`, `Stage.Fits`,
`Pipeline.Fits`, `Stage.shape`.
Key theorems: `BuildCause.reads`, `Agent.reads_listed`, `Agents.reads`, `JobOrigin.reads`,
`JobInstance.reads`, `Jobs.reads`, `Stage.reads`, `Pipeline.reads`.
-/
import StageRuns.Codec.Run
import StageRuns.Proofs.Agents
import StageRuns.Proofs.Codec.Config
import StageRuns.Proofs.Collection
import StageRuns.Proofs.Tags
import StageRuns.Proofs.Time.Rfc3339

namespace StageRuns

open Json

variable {room : Nat}

/-! ### Causes -/

theorem Instant.reads {t : Instant} (h : t.InRange) : Reads Instant.decode .leaf t.toJson t :=
  (reads_text t.toText).bind (by rw [Instant.ofText?_toText h]; rfl)

/-- A modification may have no author and no comment. -/
def Modification.shape : Shape :=
  .record [("revision", none, .leaf), ("user_name", some .null, .leaf),
    ("comment", some .null, .leaf), ("modified_time", none, .leaf)]

theorem Modification.reads {m : Modification} (h : m.time.InRange) :
    Reads Modification.decode Modification.shape m.toJson m :=
  reads_record rfl rfl (by decide) fun r _ ⟨hrevision, huser, hcomment, htime, _⟩ => by
    rw [hrevision.required (reads_text m.revision),
      huser.optional (fun _ => nofun) fun s _ => reads_text s,
      hcomment.optional (fun _ => nofun) fun s _ => reads_text s,
      htime.required (Instant.reads h)]
    rfl

theorem Modification.readable (m : Modification) : Readable (room + 1) m.toJson :=
  readable_object ⟨.text, readable_optional fun _ _ => .text, readable_optional fun _ _ => .text,
    .text, trivial⟩

/-- A material has changed, unless its revisions say otherwise. -/
def MaterialRevision.shape : Shape :=
  .record [("material", none, Material.shape), ("modifications", none, .list Modification.shape),
    ("changed", some (.bool true), .leaf)]

/-- The modifications are of years in range. -/
def MaterialRevision.Fits (r : MaterialRevision) : Prop := ∀ m ∈ r.modifications, m.time.InRange

theorem MaterialRevision.reads {r : MaterialRevision} (h : r.Fits) :
    Reads MaterialRevision.decode MaterialRevision.shape r.toJson r :=
  reads_record rfl rfl (by decide) fun _ _ ⟨hmaterial, hmodifications, hchanged, _⟩ => by
    rw [hmaterial.required (Material.reads r.material),
      hmodifications.required (reads_list fun m hm => Modification.reads (h m hm)),
      hchanged.withDefault (reads_bool r.changed) Json.bool.inj]
    rfl

theorem MaterialRevision.readable (r : MaterialRevision) : Readable (room + 3) r.toJson :=
  readable_object ⟨r.material.readable, readable_list fun m _ => Modification.readable m, .bool,
    trivial⟩

theorem Trigger.reads (k : Trigger) : Reads Trigger.decode .leaf (.text k.text) k :=
  reads_oneOf (fun k => by cases k <;> rfl) k

/-- A cause may carry no revisions and no variables. -/
def BuildCause.shape : Shape :=
  .record [("kind", none, .leaf), ("revisions", some (.array []), .list MaterialRevision.shape),
    ("approver", none, .leaf), ("variables", some (.array []), Variables.shape)]

/-- The modifications that the cause carries are of years in range. -/
def BuildCause.Fits (c : BuildCause) : Prop := ∀ r ∈ c.revisions.entries, r.Fits

/-- A cause is read from every document that says it. -/
theorem BuildCause.reads {c : BuildCause} (h : c.Fits) :
    Reads BuildCause.decode BuildCause.shape c.toJson c :=
  reads_record rfl rfl (by decide) fun r _ ⟨hkind, hrevisions, happrover, hvariables, _⟩ => by
    have hread : Reads Revisions.decode (.list MaterialRevision.shape) c.revisions.toJson
        c.revisions :=
      (reads_list fun r hr => MaterialRevision.reads (h r hr)).map Revisions.mk
    have hempty : Json.array [] = c.revisions.toJson → Revisions.empty = c.revisions :=
      fun hnil => congrArg Revisions.mk (eq_nil_of_list hnil)
    rw [hkind.required c.kind.reads,
      hrevisions.withDefault hread hempty,
      happrover.required (reads_text c.approver),
      hvariables.withDefault c.environment.reads Variables.eq_empty_of_toJson]
    rfl

theorem BuildCause.readable (c : BuildCause) : Readable (room + 5) c.toJson :=
  readable_object ⟨.text, readable_list fun r _ => MaterialRevision.readable r, .text,
    c.environment.readable, trivial⟩

/-! ### Agents and profiles -/

theorem AgentId.reads (id : AgentId) : Reads AgentId.decode .leaf id.toJson id :=
  (reads_text id.uuid).map AgentId.mk

/-- All parts of an agent but its identity have defaults. -/
def Agent.shape : Shape :=
  .record [("uuid", none, .leaf), ("hostname", some (.text ""), .leaf),
    ("ip_address", some (.text ""), .leaf), ("resources", some (.array []), .leaf)]

/-- An agent is read with the tags of the resources that are listed. -/
theorem Agent.reads_listed (a : Agent) (resources : List String) :
    Reads Agent.decode Agent.shape { a with resources }.toJson (a.withResources resources) :=
  reads_record rfl rfl (by decide) fun r _ ⟨hid, hhost, haddress, hresources, _⟩ => by
    have hread : Reads Agent.decodeResources .leaf (.texts resources) (resourceTags resources) :=
      (reads_texts resources).map resourceTags
    have hdefault : Json.array [] = .texts resources → [] = resourceTags resources := fun h => by
      rw [← eq_nil_of_list h]
      rfl
    rw [hid.required a.id.reads, hhost.withDefault (reads_text a.hostname) Json.text.inj,
      haddress.withDefault (reads_text a.ipAddress) Json.text.inj,
      hresources.withDefault hread hdefault]
    rfl

theorem Agent.reads {a : Agent} (h : AreTags a.resources) :
    Reads Agent.decode Agent.shape a.toJson a := by
  have hread := a.reads_listed a.resources
  rw [Agent.withResources, resourceTags_eq_self h] at hread
  exact hread

theorem Agent.readable (a : Agent) : Readable (room + 2) a.toJson :=
  readable_object ⟨.text, .text, .text, readable_texts a.resources, trivial⟩

/-- No two agents have the same identity, and all carry tags. -/
structure Agents.Fits (pool : Agents) : Prop where
  idsDiffer : IdsDiffer pool.members
  tags : ∀ a ∈ pool.members, AreTags a.resources

/-- A pool is read from every document that says it. -/
theorem Agents.reads {pool : Agents} (h : pool.Fits) :
    Reads Agents.decode (.list Agent.shape) pool.toJson pool :=
  (reads_list fun a ha => Agent.reads (h.tags a ha)).checked
    (Agents.ofList_eq_ok.mpr ⟨h.idsDiffer, rfl⟩)

theorem Agents.readable (pool : Agents) : Readable (room + 3) pool.toJson :=
  readable_list fun a _ => Agent.readable a

theorem Properties.members_eq : ∀ ps : Properties,
    Decode.members Decode.text (.ofJson ps.toJson) = .ok ps
  | [] => rfl
  | p :: ps => by
    have hrest := Properties.members_eq ps
    simp only [Decode.members, Properties.toJson, Document.ofJson, Document.untagged, List.map_cons,
      Document.ofMembers, List.mapM_cons] at hrest ⊢
    rw [hrest]
    rfl

/-- Properties in order are read as they are. -/
theorem Properties.reads {ps : Properties} (h : ps.AreInOrder) :
    Reads Properties.decode .leaf ps.toJson ps := fun _ hsaid => by
  rw [says_leaf hsaid, Properties.decode, Properties.members_eq]
  exact congrArg Except.ok (Properties.ofPairs_eq_self h)

theorem Properties.eq_nil_of_toJson {ps : Properties} (h : Json.object [] = ps.toJson) :
    [] = ps := by
  cases ps with
  | nil => rfl
  | cons _ _ => cases h

theorem Properties.readable (ps : Properties) : Readable (room + 1) ps.toJson :=
  .object fun m hm => by
    obtain ⟨p, -, rfl⟩ := List.mem_map.mp hm
    exact .text

/-- A profile may have no properties. -/
def ElasticProfile.shape : Shape :=
  .record [("id", none, .leaf), ("cluster_profile_id", none, .leaf),
    ("properties", some (.object []), .leaf)]

theorem ElasticProfile.reads {p : ElasticProfile} (h : p.properties.AreInOrder) :
    Reads ElasticProfile.decode ElasticProfile.shape p.toJson p :=
  reads_record rfl rfl (by decide) fun r _ ⟨hid, hcluster, hproperties, _⟩ => by
    rw [hid.required (reads_text p.id), hcluster.required (reads_text p.clusterProfileId),
      hproperties.withDefault (Properties.reads h) Properties.eq_nil_of_toJson]
    rfl

theorem ElasticProfile.readable (p : ElasticProfile) : Readable (room + 2) p.toJson :=
  readable_object ⟨.text, .text, p.properties.readable, trivial⟩

/-- A profile may have no properties. -/
def ClusterProfile.shape : Shape :=
  .record [("id", none, .leaf), ("plugin_id", none, .leaf),
    ("properties", some (.object []), .leaf)]

theorem ClusterProfile.reads {p : ClusterProfile} (h : p.properties.AreInOrder) :
    Reads ClusterProfile.decode ClusterProfile.shape p.toJson p :=
  reads_record rfl rfl (by decide) fun r _ ⟨hid, hplugin, hproperties, _⟩ => by
    rw [hid.required (reads_text p.id), hplugin.required (reads_text p.pluginId),
      hproperties.withDefault (Properties.reads h) Properties.eq_nil_of_toJson]
    rfl

theorem ClusterProfile.readable (p : ClusterProfile) : Readable (room + 2) p.toJson :=
  readable_object ⟨.text, .text, p.properties.readable, trivial⟩

/-! ### Plans -/

/-- The number has 64 bits with sign. -/
def Id.Fits {entity : Entity} (id : Id entity) : Prop :=
  -0x8000000000000000 ≤ id.value ∧ id.value ≤ 0x7fffffffffffffff

theorem Id.reads {entity : Entity} {id : Id entity} (h : id.Fits) :
    Reads Id.decode .leaf id.toJson id :=
  (reads_int h.1 h.2).map Id.mk

theorem Id.readable {entity : Entity} {id : Id entity} (h : id.Fits) : Readable room id.toJson :=
  .int h.1 (by have := h.2; omega)

/-- A job need not belong to a pipeline. -/
def JobIdentifier.shape : Shape :=
  .record [("pipeline_name", some .null, .leaf), ("stage_name", none, .leaf),
    ("job_name", none, .leaf), ("build_id", none, .leaf)]

theorem JobIdentifier.reads {i : JobIdentifier} (h : i.buildId.Fits) :
    Reads JobIdentifier.decode JobIdentifier.shape i.toJson i :=
  reads_record rfl rfl (by decide) fun r _ ⟨hpipeline, hstage, hjob, hid, _⟩ => by
    rw [hpipeline.optional (fun _ => nofun) fun s _ => reads_text s,
      hstage.required (reads_text i.stageName), hjob.required (reads_text i.jobName),
      hid.required (Id.reads h)]
    rfl

theorem JobIdentifier.readable {i : JobIdentifier} (h : i.buildId.Fits) :
    Readable (room + 1) i.toJson :=
  readable_object ⟨readable_optional fun _ _ => .text, .text, .text, Id.readable h, trivial⟩

/-- All parts of a planned artifact are there. -/
def ArtifactPlan.shape : Shape :=
  .record [("source", none, .leaf), ("destination", none, .leaf), ("kind", none, .leaf)]

theorem ArtifactPlan.reads (a : ArtifactPlan) :
    Reads ArtifactPlan.decode ArtifactPlan.shape a.toJson a :=
  reads_record rfl rfl (by decide) fun r _ ⟨hsource, hdestination, hkind, _⟩ => by
    rw [hsource.required (reads_text a.source), hdestination.required (reads_text a.destination),
      hkind.required a.kind.reads]
    rfl

theorem ArtifactPlan.readable (a : ArtifactPlan) : Readable (room + 1) a.toJson :=
  readable_object ⟨.text, .text, .text, trivial⟩

/-- All parts of a plan but its identifier have defaults. -/
def JobPlan.shape : Shape :=
  .record [("identifier", none, JobIdentifier.shape), ("resources", some (.array []), .leaf),
    ("artifact_plans", some (.array []), .list ArtifactPlan.shape),
    ("variables", some (.array []), Variables.shape),
    ("elastic_profile", some .null, ElasticProfile.shape),
    ("cluster_profile", some .null, ClusterProfile.shape), ("timeout_minutes", some .null, .leaf)]

/-- The numbers of the plan are in bounds, and its properties in order. -/
structure JobPlan.Fits (p : JobPlan) : Prop where
  buildId : p.identifier.buildId.Fits
  elastic : ∀ e ∈ p.elasticProfile, e.properties.AreInOrder
  cluster : ∀ c ∈ p.clusterProfile, c.properties.AreInOrder
  timeoutMinutes : ∀ n ∈ p.timeoutMinutes, n ≤ 0xffffffff

theorem JobPlan.reads {p : JobPlan} (h : p.Fits) : Reads JobPlan.decode JobPlan.shape p.toJson p :=
  reads_record rfl rfl (by decide) fun r _
      ⟨hidentifier, hresources, hartifacts, hvariables, helastic, hcluster, htimeout, _⟩ => by
    rw [hidentifier.required (JobIdentifier.reads h.buildId),
      hresources.withDefault (reads_texts p.resources) eq_nil_of_list,
      hartifacts.withDefault (reads_list fun a _ => ArtifactPlan.reads a) eq_nil_of_list,
      hvariables.withDefault p.environment.reads Variables.eq_empty_of_toJson,
      helastic.optional (fun _ => nofun) fun e he => ElasticProfile.reads (h.elastic e he),
      hcluster.optional (fun _ => nofun) fun c hc => ClusterProfile.reads (h.cluster c hc),
      htimeout.optional (fun _ => nofun) fun n hn => reads_count (h.timeoutMinutes n hn)]
    rfl

theorem JobPlan.readable {p : JobPlan} (h : p.Fits) : Readable (room + 3) p.toJson :=
  readable_object ⟨JobIdentifier.readable h.buildId, readable_texts p.resources,
    readable_list fun a _ => ArtifactPlan.readable a, p.environment.readable,
    readable_optional fun e _ => ElasticProfile.readable e,
    readable_optional fun c _ => ClusterProfile.readable c,
    readable_optional fun n hn => readable_nat (h.timeoutMinutes n hn), trivial⟩

/-! ### Instances -/

theorem JobState.reads (k : JobState) : Reads JobState.decode .leaf (.text k.text) k :=
  reads_oneOf (fun k => by cases k <;> rfl) k

theorem JobResult.reads (k : JobResult) : Reads JobResult.decode .leaf (.text k.text) k :=
  reads_oneOf (fun k => by cases k <;> rfl) k

theorem RunType.reads (k : RunType) : Reads RunType.decode .leaf (.text k.text) k :=
  reads_oneOf (fun k => by cases k <;> rfl) k

/-- All parts of a transition are there. -/
def Transition.shape : Shape :=
  .record [("id", none, .leaf), ("state", none, .leaf), ("state_change_time", none, .leaf)]

/-- The number and the time of the transition are in bounds. -/
structure Transition.Fits (t : Transition) : Prop where
  id : t.id.Fits
  time : t.time.InRange

theorem Transition.reads {t : Transition} (h : t.Fits) :
    Reads Transition.decode Transition.shape t.toJson t :=
  reads_record rfl rfl (by decide) fun r _ ⟨hid, hstate, htime, _⟩ => by
    rw [hid.required (Id.reads h.id), hstate.required t.state.reads,
      htime.required (Instant.reads h.time)]
    rfl

theorem Transition.readable {t : Transition} (h : t.Fits) : Readable (room + 1) t.toJson :=
  readable_object ⟨Id.readable h.id, .text, .text, trivial⟩

namespace JobOrigin

/-- The number of the job that a copy carries is in bounds. -/
def Fits : JobOrigin → Prop
  | copy source => source.Fits
  | _ => True

/-- An origin is read by its type, and a copy with the number of what it carries. -/
theorem reads : ∀ {o : JobOrigin}, o.Fits → Reads JobOrigin.decode .leaf o.toJson o
  | scheduled, _ => fun _ hsaid => by
    rw [says_leaf hsaid]
    rfl
  | rerun, _ => fun _ hsaid => by
    rw [says_leaf hsaid]
    rfl
  | copy source, h => fun _ hsaid => by
    have hid : Id.decode (.int source.value) = .ok source := Id.reads h _ .unchanged
    rw [says_leaf hsaid]
    show (Id.decode (.int source.value)).map copy = .ok (copy source)
    rw [hid]
    rfl

theorem readable : ∀ {o : JobOrigin}, o.Fits → Readable (room + 1) o.toJson
  | scheduled, _ => readable_object ⟨.text, trivial⟩
  | rerun, _ => readable_object ⟨.text, trivial⟩
  | copy _, h => readable_object ⟨.text, Id.readable h, trivial⟩

end JobOrigin

/-- Only the agent of an instance may be left out. The parts of an origin are read in a way
of their own. -/
def JobInstance.shape : Shape :=
  .record [("name", none, .leaf), ("id", none, .leaf), ("state", none, .leaf),
    ("result", none, .leaf), ("agent_uuid", some .null, .leaf),
    ("transitions", none, .list Transition.shape), ("run_type", none, .leaf),
    ("origin", none, .leaf), ("scheduled_date", none, .leaf), ("plan", none, JobPlan.shape)]

/-- All numbers and times of the instance are in bounds. -/
structure JobInstance.Fits (j : JobInstance) : Prop where
  id : j.id.Fits
  transitions : ∀ t ∈ j.transitions, t.Fits
  origin : j.origin.Fits
  scheduledDate : j.scheduledDate.InRange
  plan : j.plan.Fits

/-- An instance is read from every document that says it. -/
theorem JobInstance.reads {j : JobInstance} (h : j.Fits) :
    Reads JobInstance.decode JobInstance.shape j.toJson j :=
  reads_record rfl rfl (by decide) fun r hobject ⟨hname, hid, hstate, hresult, hagent,
      htransitions, hrunType, horigin, hdate, hplan, _⟩ => by
    rw [hname.required (reads_text j.name), hid.required (Id.reads h.id),
      hstate.required j.state.reads, hresult.required j.result.reads,
      hagent.nullable hobject (fun _ => nofun) fun a _ => AgentId.reads a,
      htransitions.required (reads_list fun t ht => Transition.reads (h.transitions t ht)),
      hrunType.required j.runType.reads, horigin.required (JobOrigin.reads h.origin),
      hdate.required (Instant.reads h.scheduledDate), hplan.required (JobPlan.reads h.plan)]
    rfl

theorem JobInstance.readable {j : JobInstance} (h : j.Fits) : Readable (room + 4) j.toJson :=
  readable_object ⟨.text, Id.readable h.id, .text, .text, readable_optional fun _ _ => .text,
    readable_list fun t ht => Transition.readable (h.transitions t ht), .text,
    JobOrigin.readable h.origin, .text, JobPlan.readable h.plan, trivial⟩

/-- No two instances have the same name, and all are in bounds. -/
structure Jobs.Fits (jobs : Jobs) : Prop where
  namesDiffer : NamesDiffer jobs.members
  members : ∀ j ∈ jobs.members, j.Fits

theorem Jobs.reads {jobs : Jobs} (h : jobs.Fits) :
    Reads Jobs.decode (.list JobInstance.shape) jobs.toJson jobs :=
  (reads_list fun j hj => JobInstance.reads (h.members j hj)).checked
    (Jobs.ofList_eq_ok.mpr ⟨h.namesDiffer, rfl⟩)

theorem Jobs.readable {jobs : Jobs} (h : jobs.Fits) : Readable (room + 5) jobs.toJson :=
  readable_list fun j hj => JobInstance.readable (h.members j hj)

/-! ### Stages and runs of pipelines -/

/-- A stage is the latest run, fetches materials and runs no other again, unless it says
otherwise. -/
def Stage.shape : Shape :=
  .record [("id", none, .leaf), ("name", none, .leaf), ("jobs", none, .list JobInstance.shape),
    ("approval_type", none, .leaf), ("approved_by", none, .leaf), ("counter", none, .leaf),
    ("rerun_of_counter", some .null, .leaf), ("config_version", none, .leaf),
    ("fetch_materials", some (.bool true), .leaf), ("clean_working_dir", some (.bool false), .leaf),
    ("created_time", none, .leaf), ("latest_run", some (.bool true), .leaf)]

/-- The stage is in bounds. -/
structure Stage.Fits (s : Stage) : Prop where
  id : s.id.Fits
  jobs : s.jobs.Fits
  counter : s.counter ≤ 0xffffffff
  rerunOfCounter : ∀ n ∈ s.rerunOfCounter, n ≤ 0xffffffff
  createdTime : s.createdTime.InRange

/-- A stage is read from every document that says it. -/
theorem Stage.reads {s : Stage} (h : s.Fits) : Reads Stage.decode Stage.shape s.toJson s :=
  reads_record rfl rfl (by decide) fun r _ ⟨hid, hname, hjobs, happroval, hby, hcounter, hrerun,
      hversion, hfetch, hclean, htime, hlatest, _⟩ => by
    rw [hid.required (Id.reads h.id), hname.required (reads_text s.name),
      hjobs.required (Jobs.reads h.jobs), happroval.required s.approvalType.reads,
      hby.required (reads_text s.approvedBy), hcounter.required (reads_count h.counter),
      hrerun.optional (fun _ => nofun) fun n hn => reads_count (h.rerunOfCounter n hn),
      hversion.required (reads_text s.configVersion),
      hfetch.withDefault (reads_bool s.fetchMaterials) Json.bool.inj,
      hclean.withDefault (reads_bool s.cleanWorkingDir) Json.bool.inj,
      htime.required (Instant.reads h.createdTime),
      hlatest.withDefault (reads_bool s.latestRun) Json.bool.inj]
    rfl

theorem Stage.readable {s : Stage} (h : s.Fits) : Readable (room + 6) s.toJson :=
  readable_object ⟨Id.readable h.id, .text, Jobs.readable h.jobs, .text, .text,
    readable_nat h.counter, readable_optional fun n hn => readable_nat (h.rerunOfCounter n hn),
    .text, .bool, .bool, .text, .bool, trivial⟩

/-- A run may have no label yet and no variables. -/
def Pipeline.shape : Shape :=
  .record [("id", none, .leaf), ("name", none, .leaf), ("counter", none, .leaf),
    ("label", some .null, .leaf), ("build_cause", none, BuildCause.shape),
    ("stages", none, .list Stage.shape), ("label_template", none, .leaf),
    ("variables", some (.array []), Variables.shape)]

/-- The run is in bounds, and so are its cause and its stages. -/
structure Pipeline.Fits (p : Pipeline) : Prop where
  id : p.id.Fits
  counter : p.counter ≤ 0xffffffff
  cause : p.cause.Fits
  stages : ∀ s ∈ p.stages, s.Fits

/-- A run of a pipeline is read from every document that says it. -/
theorem Pipeline.reads {p : Pipeline} (h : p.Fits) :
    Reads Pipeline.decode Pipeline.shape p.toJson p :=
  reads_record rfl rfl (by decide) fun r _ ⟨hid, hname, hcounter, hlabel, hcause, hstages,
      htemplate, hvariables, _⟩ => by
    rw [hid.required (Id.reads h.id), hname.required (reads_text p.name),
      hcounter.required (reads_count h.counter),
      hlabel.optional (fun _ => nofun) fun s _ => reads_text s,
      hcause.required (BuildCause.reads h.cause),
      hstages.required (reads_list fun s hs => Stage.reads (h.stages s hs)),
      htemplate.required (reads_text p.labelTemplate),
      hvariables.withDefault p.environment.reads Variables.eq_empty_of_toJson]
    rfl

theorem Pipeline.readable {p : Pipeline} (h : p.Fits) : Readable (room + 8) p.toJson :=
  readable_object ⟨Id.readable h.id, .text, readable_nat h.counter,
    readable_optional fun _ _ => .text, p.cause.readable,
    readable_list fun s hs => Stage.readable (h.stages s hs), .text, p.environment.readable,
    trivial⟩

end StageRuns
