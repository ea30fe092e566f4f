/-
# Agents

An agent has an identity and carries resource tags, which are trimmed and in
lower case. A pool holds agents in the order in which they joined it, each
identity once; a job that asks for resources may run on the agents that carry
all of them.

Key definitions: `Agent`, `Agent.hasAll`, `Agents`, `Agents.add`,
`Agents.ofList`, `Agents.matching`.
-/
import StageRuns.Failure
import StageRuns.Text.LetterCase

namespace StageRuns

/-- The form in which a resource is kept and compared. -/
def resourceTag (resource : String) : String := Text.lower (Text.trim resource)

/-- The tags with one more, in rising order and each once. -/
def insertTag (tag : String) : List String → List String
  | [] => [tag]
  | t :: ts =>
    if tag < t then tag :: t :: ts else if tag = t then t :: ts else t :: insertTag tag ts

/-- The tags of the resources, in rising order and each once. -/
def resourceTags (resources : List String) : List String :=
  resources.foldl (fun tags r => insertTag (resourceTag r) tags) []

/-- A machine that runs jobs. -/
structure Agent where
  id : AgentId
  hostname : String := ""
  ipAddress : String := ""
  resources : List String := []
deriving Repr, DecidableEq

namespace Agent

/-- An agent with the tags of the resources. -/
def withResources (agent : Agent) (resources : List String) : Agent :=
  { agent with resources := resourceTags resources }

/-- Does the agent carry every one of the required resources? -/
def hasAll (agent : Agent) (required : List String) : Bool :=
  required.all fun r => agent.resources.contains (resourceTag r)

end Agent

/-- A pool of agents in the order in which they joined. -/
structure Agents where
  members : List Agent := []
deriving Repr, DecidableEq, Inhabited

namespace Agents

/-- The pool without agents. -/
def empty : Agents := ⟨[]⟩

/-- The agent of an identity. -/
def byId? (pool : Agents) (id : AgentId) : Option Agent := pool.members.find? fun a => a.id == id

/-- Is an agent of this identity in the pool? -/
def has (pool : Agents) (id : AgentId) : Bool := (pool.byId? id).isSome

/-- The pool with one more agent, unless its identity is taken. -/
def add (pool : Agents) (agent : Agent) : Except Failure Agents :=
  if pool.has agent.id then .error (.duplicateAgent agent.id) else .ok ⟨pool.members ++ [agent]⟩

/-- The pool of the listed agents, if no identity is there twice. -/
def ofList (agents : List Agent) : Except Failure Agents := agents.foldlM add empty

/-- The agents that carry all required resources, in the order of the pool. -/
def matching (pool : Agents) (required : List String) : List Agent :=
  pool.members.filter fun a => a.hasAll required

end Agents
end StageRuns
