/-
# What takes the place of the selected instances

The selected instances of a job are made anew from its current configuration.
A job that runs once, or a number of times, gets an instance for each selected
one. A job that runs on all agents gets an instance for each agent that
carries its resources and is not bound to an instance that stays; their
indices follow the highest one of the old stage. The run type of a job must be
what it was, except that a single instance of a job that ran on all agents may
run once, on the same agent.

Key definitions: `RerunGroup.freshInstances`, `Replacement`,
`RerunGroup.replacement`.
-/
import StageRuns.Instantiation
import StageRuns.Rerun.Selection

namespace StageRuns
namespace RerunGroup

/-- The failure to rerun a job whose run type is another one now. -/
def runTypeChanged (g : RerunGroup) (current : RunType) : Failure :=
  .cannotRerunJob g.base
    ("Run configuration for job has been changed to '" ++ current.description ++ "'.")

/-- The instances of the old stage that ran the job of the group on all
agents. -/
def agentSiblings (g : RerunGroup) (old : Stage) : List JobInstance :=
  old.jobs.members.filter fun j => j.isRunOnAllAgents && Text.sameName j.baseName g.base

/-- Is the instance one of the group? -/
def has (g : RerunGroup) (job : JobInstance) : Bool := g.members.any fun j => j.name == job.name

/-- The agents that are bound to instances that stay. -/
def busyAgents (g : RerunGroup) (old : Stage) : List AgentId :=
  ((g.agentSiblings old).filter fun j => !g.has j).filterMap (·.agent)

/-- The agents that the job may run on again. -/
def freeAgents (g : RerunGroup) (old : Stage) (config : JobConfig) (s : Scheduling) : List Agent :=
  (s.matching config.resources).filter fun a => !(g.busyAgents old).contains a.id

/-- The highest index of an instance of the old stage that ran on an agent. -/
def highestIndex (g : RerunGroup) (old : Stage) : Nat :=
  ((g.agentSiblings old).filterMap (·.index?)).foldl max 0

/-- An instance for each agent that the job may run on again. -/
def agentInstances (g : RerunGroup) (old : Stage) (config : JobConfig) (plan : JobPlan)
    (s : Scheduling) (now : Instant) : Except Failure (List JobInstance) :=
  (runOnAllInstances old.name g.base plan (g.freeAgents old config s)
    ⟨g.base, .runOnAllAgents, g.highestIndex old⟩ now).map (·.1)

/-- The one instance of a job that ran on all agents and runs once now. -/
def onSameAgent (g : RerunGroup) (plan : JobPlan) (now : Instant) : Except Failure JobInstance :=
  let fresh := singleInstance g.base plan now
  if g.others.isEmpty then
    .ok (match g.first.agent with
      | some agent => fresh.bindAgent agent
      | none => fresh)
  else
    .error (.invalidArgument
      ("Cannot schedule multiple instances of job named '" ++ g.base ++ "'."))

/-- The instance of the same index, which must not be beyond the configured
number. -/
def atSameIndex (g : RerunGroup) (plan : JobPlan) (count : Nat) (now : Instant)
    (job : JobInstance) : Except Failure JobInstance :=
  let index := job.index?.getD 1
  if count < index then
    .error (.cannotRerunJob job.name
      ("Run instance count for job has been changed to " ++
        String.ofList (Text.digitsOfNat count) ++ "."))
  else
    .ok (runInstance g.base plan index count now)

/-- The new instances for a group, from the current configuration of its
job. -/
def freshInstances (g : RerunGroup) (old : Stage) (config : JobConfig) (s : Scheduling)
    (now : Instant) : Except Failure (List JobInstance) :=
  let plan := s.jobPlan old.name config
  match g.first.runType, config.runType with
  | .single, .single => .ok [singleInstance g.base plan now]
  | .runOnAllAgents, .single => (g.onSameAgent plan now).map fun job => [job]
  | .runOnAllAgents, .runOnAllAgents => g.agentInstances old config plan s now
  | .runMultipleInstance, .runMultipleInstance =>
    g.members.mapM (g.atSameIndex plan (config.runInstanceCount.getD 1) now)
  | _, current => .error (g.runTypeChanged current)

end RerunGroup

/-- The new instances for the selected ones of a job. A block stands together in
the place of the first selected instance; others take the place of one each. -/
structure Replacement where
  base : String
  jobs : List JobInstance
  isBlock : Bool
deriving Repr, DecidableEq

/-- Was the instance made of the job of the replacement? -/
def Replacement.covers (r : Replacement) (job : JobInstance) : Bool :=
  Text.sameName r.base job.baseName

/-- What takes the place of the selected instance of a rank among those of its
job. -/
def Replacement.piece (r : Replacement) (rank : Nat) : List JobInstance :=
  if r.isBlock then (if rank = 0 then r.jobs else []) else r.jobs[rank]?.toList

/-- The instance, marked if the surroundings are those of a rerun. -/
def Scheduling.markRerun (s : Scheduling) (job : JobInstance) : JobInstance :=
  if s.isRerun then job.markAsRerun else job

/-- What takes the place of a group. Its job must still be configured. -/
def RerunGroup.replacement (g : RerunGroup) (old : Stage) (config : StageConfig) (s : Scheduling)
    (now : Instant) : Except Failure Replacement :=
  match config.job? g.base with
  | none => .error (.jobConfigMissing g.base)
  | some job =>
    (g.freshInstances old job s now).map fun fresh =>
      ⟨g.base, fresh.map s.markRerun,
        g.first.runType == .runOnAllAgents && job.runType == .runOnAllAgents⟩

end StageRuns
