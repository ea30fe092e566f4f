/-
# The written form of agents and profiles

Resources are written as tags in rising order and read from any list. A pool
with an identity twice is refused, once all its agents are read.

Key definitions: `Agent.toJson`, `Agent.decode`, `Agents.decode`,
`ElasticProfile.decode`, `ClusterProfile.decode`.
-/
import StageRuns.Agent
import StageRuns.Codec.Record
import StageRuns.Profile

namespace StageRuns

/-- The written form of an agent's identity. -/
def AgentId.toJson (id : AgentId) : Json := .text id.uuid

/-- The identity of an agent. -/
def AgentId.decode : Decoder AgentId := fun d => (Decode.text d).map AgentId.mk

/-- The written form of an agent. -/
def Agent.toJson (a : Agent) : Json :=
  .object [("uuid", a.id.toJson), ("hostname", .text a.hostname),
    ("ip_address", .text a.ipAddress), ("resources", .texts a.resources)]

/-- The tags of listed resources. -/
def Agent.decodeResources : Decoder (List String) := fun d =>
  (Decode.list Decode.text d).map resourceTags

/-- An agent. -/
def Agent.decode : Decoder Agent :=
  Decode.record ["uuid", "hostname", "ip_address", "resources"] fun r =>
    Agent.mk <$> r.required "uuid" AgentId.decode <*> r.withDefault "hostname" Decode.text ""
      <*> r.withDefault "ip_address" Decode.text ""
      <*> r.withDefault "resources" Agent.decodeResources []

/-- The written form of a pool. -/
def Agents.toJson (pool : Agents) : Json := .list Agent.toJson pool.members

/-- A pool of agents with distinct identities. -/
def Agents.decode : Decoder Agents := Decode.checked (Decode.list Agent.decode) Agents.ofList

/-- The written form of properties. -/
def Properties.toJson (ps : Properties) : Json := .object (ps.map fun p => (p.1, .text p.2))

/-- Properties by name. -/
def Properties.decode : Decoder Properties := fun d =>
  (Decode.members Decode.text d).map Properties.ofPairs

/-- The written form of an elastic profile. -/
def ElasticProfile.toJson (p : ElasticProfile) : Json :=
  .object [("id", .text p.id), ("cluster_profile_id", .text p.clusterProfileId),
    ("properties", Properties.toJson p.properties)]

/-- An elastic profile. -/
def ElasticProfile.decode : Decoder ElasticProfile :=
  Decode.record ["id", "cluster_profile_id", "properties"] fun r =>
    ElasticProfile.mk <$> r.required "id" Decode.text
      <*> r.required "cluster_profile_id" Decode.text
      <*> r.withDefault "properties" Properties.decode []

/-- The written form of a cluster profile. -/
def ClusterProfile.toJson (p : ClusterProfile) : Json :=
  .object [("id", .text p.id), ("plugin_id", .text p.pluginId),
    ("properties", Properties.toJson p.properties)]

/-- A cluster profile. -/
def ClusterProfile.decode : Decoder ClusterProfile :=
  Decode.record ["id", "plugin_id", "properties"] fun r =>
    ClusterProfile.mk <$> r.required "id" Decode.text <*> r.required "plugin_id" Decode.text
      <*> r.withDefault "properties" Properties.decode []

end StageRuns
