/-
# What is written is read back

A value that its decoder reads from all documents that say it is read from the texts that
write it: the compact one, and the one that a command prints in JSON
(`readsBack_of_reads`). So stages, runs, causes, instances and pools come back as they were
(`readsBack`), and a rerun of a stage that was printed into a file is the rerun of the
stage.

Key definitions: `ReadsBack`.
Key theorems: `fromText_of_reads`, `readsBack_of_reads`, `readsBack`.
-/
import StageRuns.Cli.Command
import StageRuns.Proofs.Codec.Run

namespace StageRuns

open Json

variable {α : Type} {decode : Decoder α} {shape : Shape} {j : Json} {a : α}

/-- A text that is read as a whole, as a document that says the value, is the value. -/
theorem fromText_of_reads {d : Document} {text : String} (h : Reads decode shape j a)
    (hd : Says shape j d) (hread : Json.read text = ⟨d, true⟩) :
    Decode.fromText decode text = .ok a := by
  rw [Decode.fromText, hread, Decode.whole, h d hd]
  rfl

/-- The decoder reads the value from its compact text, and from the text that a command
prints for it in JSON, with the new line at the end or without. -/
def ReadsBack {α : Type} (decode : Decoder α) (j : Json) (a : α) : Prop :=
  ∀ text ∈ [j.compact, Cli.Format.render .json j, Cli.Format.render .json j ++ "\n"],
    Decode.fromText decode text = .ok a

theorem writtenAs_of_mem {text : String}
    (h : text ∈ [j.compact, Cli.Format.render .json j, Cli.Format.render .json j ++ "\n"]) :
    WrittenAs j text := by
  rcases List.mem_cons.mp h with rfl | h
  · exact .compact
  rcases List.mem_cons.mp h with rfl | h
  · exact .indented
  · rw [List.mem_singleton.mp h]
    exact .line

theorem readsBack_of_reads (h : Reads decode shape j a) (hj : Readable Builder.maxDepth j) :
    ReadsBack decode j a := fun _ htext =>
  fromText_of_reads h .unchanged (read_of_writtenAs hj (writtenAs_of_mem htext))

/-- A file in JSON that holds the printed value is read as the value. -/
theorem ReadsBack.read_file {w : Cli.World} {path : String} (h : ReadsBack decode j a)
    (hpath : Cli.isJsonPath path = true)
    (hfile : w.file? path = some (Cli.Format.render .json j ++ "\n")) :
    w.read decode path = .ok a := by
  have htext := h (Cli.Format.render .json j ++ "\n") (by simp)
  rw [Cli.World.read, hfile]
  simp only [hpath, if_true, htext]
  rfl

/-- Stages, runs, causes, instances and pools that are in bounds are read back from their
compact and their printed texts. The rerun of a stage that was printed into a file is that
of the stage itself. -/
theorem readsBack :
    (∀ s : Stage, s.Fits → ReadsBack Stage.decode s.toJson s) ∧
    (∀ p : Pipeline, p.Fits → ReadsBack Pipeline.decode p.toJson p) ∧
    (∀ c : BuildCause, c.Fits → ReadsBack BuildCause.decode c.toJson c) ∧
    (∀ i : JobInstance, i.Fits → ReadsBack JobInstance.decode i.toJson i) ∧
    (∀ pool : Agents, pool.Fits → ReadsBack Agents.decode pool.toJson pool) ∧
    ∀ (s : Stage), s.Fits → ∀ (w : Cli.World) (path : String), Cli.isJsonPath path = true →
      w.file? path = some (Cli.Format.render .json s.toJson ++ "\n") →
        ∀ (around : Scheduling) (request : List String) (version : String) (now : Instant),
          (∀ config : StageConfig,
            (w.read Stage.decode path).map (around.rerun · request config version now) =
              .ok (around.rerun s request config version now)) ∧
          ∀ (pipeline : PipelineConfig) (name : String),
            (w.read Stage.decode path).map
                (around.rerunNamed pipeline · name request version now) =
              .ok (around.rerunNamed pipeline s name request version now) := by
  have hstage : ∀ s : Stage, s.Fits → ReadsBack Stage.decode s.toJson s := fun s h =>
    readsBack_of_reads (Stage.reads h) (Stage.readable h)
  refine ⟨hstage, fun p h => readsBack_of_reads (Pipeline.reads h) (Pipeline.readable h),
    fun c h => readsBack_of_reads (BuildCause.reads h) c.readable,
    fun i h => readsBack_of_reads (JobInstance.reads h) (JobInstance.readable h),
    fun pool h => readsBack_of_reads (Agents.reads h) pool.readable, ?_⟩
  intro s h w path hpath hfile around request version now
  rw [(hstage s h).read_file hpath hfile]
  exact ⟨fun _ => rfl, fun _ _ => rfl⟩

/-- An instance that carries the outcome of another. It was scheduled in a leap second, and
its plan has a variable twice. -/
def carriedJob : JobInstance where
  name := "Bücher \"∑\"\n"
  id := ⟨-1⟩
  state := .completed
  result := .failed
  agent := some ⟨"a"⟩
  transitions := [⟨⟨5⟩, .scheduled, ⟨1483228799, 1500000000⟩⟩, ⟨⟨-1⟩, .completed, ⟨-1, 0⟩⟩]
  runType := .runOnAllAgents
  origin := .copy ⟨0x7fffffffffffffff⟩
  scheduledDate := ⟨1483228799, 1500000000⟩
  plan :=
    { environment := ⟨[⟨"X", "1", true⟩, ⟨"X", "", false⟩]⟩
      elasticProfile := some ⟨"e", "c", [("a", "1"), ("b", "2")]⟩
      timeoutMinutes := some 0xffffffff }

theorem fits_carriedJob : carriedJob.Fits where
  id := ⟨by decide, by decide⟩
  transitions := by
    intro t ht
    rcases List.mem_cons.mp ht with rfl | ht
    · exact ⟨⟨by decide, by decide⟩, by decide, by decide, by decide⟩
    · rw [List.mem_singleton.mp ht]
      exact ⟨⟨by decide, by decide⟩, by decide, by decide, by decide⟩
  origin := ⟨by decide, by decide⟩
  scheduledDate := ⟨by decide, by decide, by decide⟩
  plan :=
    { buildId := ⟨by decide, by decide⟩
      elastic := fun e he => by
        cases he
        decide
      cluster := nofun
      timeoutMinutes := fun n hn => by
        cases hn
        decide }

/-- A stage with that instance, made in the year 10000. -/
def carryingStage : Stage where
  id := ⟨9⟩
  name := "s"
  jobs := ⟨[carriedJob]⟩
  approvalType := .manual
  approvedBy := "anonymous"
  counter := 0xffffffff
  rerunOfCounter := some 1
  configVersion := ""
  createdTime := ⟨253402300800, 1000⟩

theorem fits_carryingStage : carryingStage.Fits where
  id := ⟨by decide, by decide⟩
  jobs := ⟨List.pairwise_singleton .., fun j hj => List.mem_singleton.mp hj ▸ fits_carriedJob⟩
  counter := by decide
  rerunOfCounter := fun n hn => by
    cases hn
    decide
  createdTime := ⟨by decide, by decide, by decide⟩

/-- A run of that stage, which a modification in the year -1 made. -/
def carryingRun : Pipeline where
  id := ⟨-1⟩
  name := "p"
  counter := 3
  label := some "3"
  cause := ⟨.modification,
    ⟨[⟨⟨"m", .git, none⟩, [⟨"r", some "u", none, ⟨-62198755200, 0⟩⟩], false⟩]⟩, "", .empty⟩
  stages := [carryingStage]

theorem fits_carryingRun : carryingRun.Fits where
  id := ⟨by decide, by decide⟩
  counter := by decide
  cause := fun r hr m hm => by
    rw [List.mem_singleton.mp hr] at hm
    rw [List.mem_singleton.mp hm]
    exact ⟨by decide, by decide, by decide⟩
  stages := fun s hs => List.mem_singleton.mp hs ▸ fits_carryingStage

/-- Two agents, one with tags. -/
def taggedPool : Agents := ⟨[⟨⟨"a"⟩, "h", "", ["linux", "ς"]⟩, ⟨⟨"A"⟩, "", "", []⟩]⟩

theorem fits_taggedPool : taggedPool.Fits where
  idsDiffer := List.pairwise_pair.mpr (by decide)
  tags a ha := by
    rcases List.mem_cons.mp ha with rfl | ha
    · exact ⟨by decide, by decide⟩
    · rw [List.mem_singleton.mp ha]
      exact ⟨.nil, nofun⟩

/-- All of these are read back, and the rerun of the stage from a file is its own. -/
theorem readsBack_carryingRun :
    ReadsBack Stage.decode carryingStage.toJson carryingStage ∧
    ReadsBack Pipeline.decode carryingRun.toJson carryingRun ∧
    ReadsBack BuildCause.decode carryingRun.cause.toJson carryingRun.cause ∧
    ReadsBack JobInstance.decode carriedJob.toJson carriedJob ∧
    ReadsBack Agents.decode taggedPool.toJson taggedPool ∧
    ∃ w : Cli.World, (w.read Stage.decode "stage.json").map
        (Scheduling.rerun {} · ["a"] ⟨"s", [], .success, .empty, true, false⟩ "" ⟨0, 0⟩) =
      .ok (Scheduling.rerun {} carryingStage ["a"] ⟨"s", [], .success, .empty, true, false⟩ ""
        ⟨0, 0⟩) := by
  obtain ⟨hstage, hrun, hcause, hjob, hpool, hrerun⟩ := readsBack
  refine ⟨hstage _ fits_carryingStage, hrun _ fits_carryingRun, hcause _ fits_carryingRun.cause,
    hjob _ fits_carriedJob, hpool _ fits_taggedPool,
    ⟨fun _ => some (Cli.Format.render .json carryingStage.toJson ++ "\n"), [], ⟨0, 0⟩⟩, ?_⟩
  exact (hrerun _ fits_carryingStage _ "stage.json" (by decide) rfl _ _ _ _).1 _

end StageRuns
