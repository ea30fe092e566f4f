/-
# What a fingerprint tells

Two configurations have the same canonical text exactly if they are equal
(`PipelineConfig.compact_inj`), because each is read back from its own. Documents that say
a configuration are read as it, whatever order their parts are in, whatever else is in them
and whichever defaults they leave out, so they lead to its fingerprint
(`PipelineConfig.fingerprint_tells`).

Key theorems: `PipelineConfig.compact_inj`, `PipelineConfig.fingerprint_tells`.
-/
import StageRuns.Proofs.Codec.ReadBack

namespace StageRuns
namespace PipelineConfig

variable {p q : PipelineConfig}

theorem fromText_compact (h : p.Fits) :
    Decode.fromText PipelineConfig.decode p.toJson.compact = .ok p :=
  readsBack_of_reads (reads h) (readable h) _ List.mem_cons_self

theorem compact_inj (hp : p.Fits) (hq : q.Fits) (h : p.toJson.compact = q.toJson.compact) :
    p = q := by
  have hread := fromText_compact hp
  rw [h, fromText_compact hq] at hread
  exact (Except.ok.inj hread).symm

/-- The bytes that the fingerprint is taken of tell configurations apart, and so does the
fingerprint, unless the digests of two different texts are the same. A document that says
the configuration is read as it and has its fingerprint, and so do the texts of a value
whose document says it. -/
theorem fingerprint_tells (hp : p.Fits) :
    (∀ q : PipelineConfig, q.Fits →
      (p.toJson.compact.toUTF8 = q.toJson.compact.toUTF8 ↔ p = q) ∧
      ((Hash.sha256 p.toJson.compact = Hash.sha256 q.toJson.compact →
          p.toJson.compact = q.toJson.compact) → (p.fingerprint = q.fingerprint ↔ p = q))) ∧
    (∀ d : Document, Says PipelineConfig.shape p.toJson d →
      PipelineConfig.decode d = .ok p ∧
      (PipelineConfig.decode d).map fingerprint = .ok p.fingerprint ∧
      ∀ text : String, Json.read text = ⟨d, true⟩ →
        Decode.fromText PipelineConfig.decode text = .ok p) ∧
    ∀ j : Json, Says PipelineConfig.shape p.toJson (.ofJson j) →
      Json.Readable Json.Builder.maxDepth j → ReadsBack PipelineConfig.decode j p := by
  refine ⟨fun q hq => ?_, fun d hd => ?_, fun j hj hreadable text htext => ?_⟩
  · refine ⟨⟨fun h => compact_inj hp hq (String.toByteArray_inj.mp h), fun h => h ▸ rfl⟩,
      fun hcollision => ⟨fun h => compact_inj hp hq (hcollision h), fun h => h ▸ rfl⟩⟩
  · refine ⟨reads hp d hd, ?_, fun text => fromText_of_reads (reads hp) hd⟩
    rw [reads hp d hd]
    rfl
  · have hread := Json.read_of_writtenAs hreadable (writtenAs_of_mem htext)
    exact fromText_of_reads (reads hp) hj hread

/-- A job with resources, an artifact and two instances. -/
def twiceJob : JobConfig where
  name := "j"
  resources := ["linux"]
  artifacts := [⟨"a", none, .build⟩]
  runInstanceCount := some 2

/-- A pipeline with that job in its stage. -/
def twice : PipelineConfig where
  name := "p"
  stages := [{ name := "s", jobs := [twiceJob] }]

/-- The job without its defaults, its parts from last to first behind one of no meaning. -/
def twiceJobAround : Json :=
  .object [("note", .object [("name", .int 1)]), ("run_instance_count", .int 2),
    ("artifacts", .array [.object [("kind", .text "build"), ("source", .text "a")]]),
    ("resources", .array [.text "linux"]), ("name", .text "j")]

/-- The pipeline in the same manner. -/
def twiceAround : Json :=
  .object [("name of author", .text "p"),
    ("stages", .array [.object [("jobs", .array [twiceJobAround]), ("name", .text "s")]]),
    ("name", .text "p")]

theorem fits_twice : twice.Fits := by
  intro s hs j hj
  cases List.mem_singleton.mp hs
  cases List.mem_singleton.mp hj
  refine ⟨fun n hn => ?_, nofun⟩
  cases hn
  decide

theorem says_twiceJobAround : Says JobConfig.shape twiceJob.toJson (.ofJson twiceJobAround) := by
  have hartifact : Says ArtifactConfig.shape (ArtifactConfig.toJson ⟨"a", none, .build⟩)
      (.ofJson (.object [("kind", .text "build"), ("source", .text "a")])) :=
    @Says.record _ _ [("source", .text "a"), ("kind", .text "build")] [] _
      (.kept .unchanged (.dropped (.kept .unchanged .nil))) nofun (List.reverse_perm _)
  have hnote : ∀ e ∈ [("note", Document.ofJson (.object [("name", .int 1)]))],
      e.1 ∉ ["name", "resources", "artifacts", "variables", "run_on_all_agents",
        "run_instance_count", "elastic_profile_id", "timeout_minutes"] := by
    intro e he
    cases List.mem_singleton.mp he
    decide
  exact @Says.record _ _ [("name", .text "j"), ("resources", .array [.text "linux"]),
    ("artifacts", .array [.ofJson (.object [("kind", .text "build"), ("source", .text "a")])]),
    ("run_instance_count", .ofJson (.int 2))] _ _
    (.kept .unchanged (.kept .unchanged (.kept (.list (.cons hartifact .nil)) (.dropped (.dropped
      (.kept .unchanged (.dropped (.dropped .nil)))))))) hnote (List.reverse_perm _)

theorem says_twiceAround : Says PipelineConfig.shape twice.toJson (.ofJson twiceAround) := by
  have hstage : Says StageConfig.shape (StageConfig.toJson ⟨"s", [twiceJob], .success, .empty, true,
      false⟩) (.ofJson (.object [("jobs", .array [twiceJobAround]), ("name", .text "s")])) :=
    @Says.record _ _ [("name", .text "s"), ("jobs", .array [.ofJson twiceJobAround])] [] _
      (.kept .unchanged (.kept (.list (.cons says_twiceJobAround .nil))
        (.dropped (.dropped (.dropped (.dropped .nil)))))) nofun (List.reverse_perm _)
  have hauthor : ∀ e ∈ [("name of author", Document.text "p")],
      e.1 ∉ ["name", "materials", "stages", "variables", "label_template"] := by
    intro e he
    cases List.mem_singleton.mp he
    decide
  exact @Says.record _ _ [("name", .text "p"),
    ("stages", .array [.ofJson (.object [("jobs", .array [twiceJobAround]), ("name", .text "s")])])]
    _ _ (.kept .unchanged (.dropped (.kept (.list (.cons hstage .nil)) (.dropped (.dropped .nil)))))
    hauthor (List.reverse_perm _)

theorem readable_twiceAround : Json.Readable Json.Builder.maxDepth twiceAround := by
  have hjob : Json.Readable 123 twiceJobAround :=
    Json.readable_object ⟨Json.readable_object ⟨.int (by decide) (by decide), trivial⟩,
      .int (by decide) (by decide),
      .array (List.forall_mem_singleton.mpr (Json.readable_object ⟨.text, .text, trivial⟩)),
      .array (List.forall_mem_singleton.mpr .text), .text, trivial⟩
  have hstage : Json.Readable 125 (.object [("jobs", .array [twiceJobAround]),
      ("name", .text "s")]) :=
    Json.readable_object ⟨.array (List.forall_mem_singleton.mpr hjob), .text, trivial⟩
  exact Json.readable_object ⟨.text, .array (List.forall_mem_singleton.mpr hstage), .text, trivial⟩

/-- A pipeline without stages. -/
def bare (name : String) : PipelineConfig where
  name := name
  stages := []

theorem sha256_bare :
    Hash.sha256 (bare "p").toJson.compact ≠ Hash.sha256 (bare "q").toJson.compact := by
  decide +kernel

/-- Two pipelines of different names have different bytes and fingerprints. The document
around the pipeline with a stage is read as it, also from each of the document's texts. -/
theorem fingerprint_tells_twice :
    ReadsBack PipelineConfig.decode twiceAround twice ∧
    PipelineConfig.decode (.ofJson twiceAround) = .ok twice ∧
    (bare "p").toJson.compact.toUTF8 ≠ (bare "q").toJson.compact.toUTF8 ∧
    (bare "p").fingerprint ≠ (bare "q").fingerprint := by
  obtain ⟨-, hsaid, htexts⟩ := fingerprint_tells fits_twice
  obtain ⟨hbytes, hfingerprint⟩ := (fingerprint_tells (p := bare "p") nofun).1 (bare "q") nofun
  have hne : bare "p" ≠ bare "q" := by decide
  have hcollision (h : Hash.sha256 (bare "p").toJson.compact =
      Hash.sha256 (bare "q").toJson.compact) :
      (bare "p").toJson.compact = (bare "q").toJson.compact :=
    absurd h sha256_bare
  exact ⟨htexts _ says_twiceAround readable_twiceAround, (hsaid _ says_twiceAround).1,
    fun h => hne (hbytes.mp h), fun h => hne ((hfingerprint hcollision).mp h)⟩

end PipelineConfig
end StageRuns
