/-
# From a job to its instances

A configured job becomes one instance, one for each agent that carries its
resources, or a given number of them. Instances for agents are bound to them;
instances of a number know their index and how many there are from two
variables in front of all others.

Key definitions: `Expansion`, `Expansion.ofConfig`, `singleInstance`,
`runInstance`, `runOnAllInstances`, `Expansion.instances`.
-/
import StageRuns.Config.Job
import StageRuns.InstanceName
import StageRuns.Job.Collection
import StageRuns.Scheduling

namespace StageRuns

/-- The way in which a job becomes instances. -/
inductive Expansion where
  | single
  | runOnAllAgents
  | runMultiple (count : Nat)
deriving Repr, DecidableEq

namespace Expansion

/-- The way that a configuration selects. -/
def ofConfig (job : JobConfig) : Expansion :=
  if job.runOnAllAgents then runOnAllAgents
  else match job.runInstanceCount with
    | some (n + 1) => runMultiple (n + 1)
    | _ => single

/-- The run type of the instances. -/
def runType : Expansion → RunType
  | single => .single
  | runOnAllAgents => .runOnAllAgents
  | runMultiple _ => .runMultipleInstance

end Expansion

/-- The variable that holds the index of an instance. -/
def indexVariable : String := "GO_JOB_RUN_INDEX"

/-- The variable that holds the number of instances. -/
def countVariable : String := "GO_JOB_RUN_COUNT"

/-- The instance of a job that runs once. -/
def singleInstance (name : String) (plan : JobPlan) (now : Instant) : JobInstance :=
  .create name plan .single now

/-- The plan of the instance of an index among a number of instances. -/
def planForIndex (plan : JobPlan) (index count : Nat) : JobPlan :=
  { plan with
    environment := plan.environment.inFront
      [⟨indexVariable, String.ofList (Text.digitsOfNat index), false⟩,
        ⟨countVariable, String.ofList (Text.digitsOfNat count), false⟩] }

/-- The instance of an index among a number of instances. -/
def runInstance (base : String) (plan : JobPlan) (index count : Nat) (now : Instant) :
    JobInstance :=
  .create (instanceName base .runMultipleInstance index) (planForIndex plan index count)
    .runMultipleInstance now

/-- The instance of a name for an agent. -/
def agentInstance (plan : JobPlan) (now : Instant) (name : String) (agent : Agent) : JobInstance :=
  (JobInstance.create name plan .runOnAllAgents now).bindAgent agent.id

/-- An instance for each agent, in order, under the next names of a source, and
the source after them. There must be an agent. -/
def runOnAllInstances (stageName jobName : String) (plan : JobPlan) (agents : List Agent)
    (names : Numbering) (now : Instant) : Except Failure (List JobInstance × Numbering) :=
  if agents.isEmpty then .error (.noMatchingAgents jobName stageName)
  else
    let (taken, names) := names.take agents.length
    .ok (taken.zipWith (agentInstance plan now) agents, names)

namespace Expansion

/-- The instances of a job, all with the same plan. -/
def instances (way : Expansion) (stageName : String) (job : JobConfig) (plan : JobPlan)
    (s : Scheduling) (now : Instant) : Except Failure (List JobInstance) :=
  match way with
  | single => .ok [singleInstance job.name plan now]
  | runOnAllAgents =>
    (runOnAllInstances stageName job.name plan (s.matching job.resources)
      ⟨job.name, .runOnAllAgents, 0⟩ now).map (·.1)
  | runMultiple count =>
    .ok ((List.range count).map fun i => runInstance job.name plan (i + 1) count now)

/-- The instances of a job as the jobs of a stage. -/
def jobs (way : Expansion) (stageName : String) (job : JobConfig) (plan : JobPlan)
    (s : Scheduling) (now : Instant) : Except Failure Jobs := do
  Jobs.ofList (← way.instances stageName job plan s now)

end Expansion
end StageRuns
