/-
# Elastic agent profiles

An elastic profile says how an agent is provisioned on demand, and names the
cluster profile that says where. Both are opaque here: they are found by their
identifier and attached to job plans. Of several profiles with one identifier
the last one counts.

Key definitions: `ElasticProfile`, `ClusterProfile`, `Profiles.find?`.
-/
namespace StageRuns

/-- Properties in the order of their names, each name once. -/
abbrev Properties := List (String × String)

namespace Properties

/-- The properties with one more, in its place by name, or with a new value. -/
def insert (name value : String) : Properties → Properties
  | [] => [(name, value)]
  | (n, v) :: rest =>
    if name < n then (name, value) :: (n, v) :: rest
    else if name = n then (name, value) :: rest
    else (n, v) :: insert name value rest

/-- The properties that a list of names and values gives; the last value of a
name counts. -/
def ofPairs (pairs : List (String × String)) : Properties :=
  pairs.foldl (fun ps p => insert p.1 p.2 ps) []

end Properties

/-- How to provision an agent on demand. -/
structure ElasticProfile where
  id : String
  clusterProfileId : String
  properties : Properties := []
deriving Repr, DecidableEq

/-- Where to provision agents. -/
structure ClusterProfile where
  id : String
  pluginId : String
  properties : Properties := []
deriving Repr, DecidableEq

/-- The last profile with an identifier. -/
def Profiles.find? {α : Type} (idOf : α → String) (profiles : List α) (id : String) : Option α :=
  profiles.reverse.find? fun p => idOf p == id

end StageRuns
