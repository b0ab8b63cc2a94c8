import MapServices.Notice
import MapServices.Request

/-!
# Groups of layers

The layers of map and tile services that share a capabilities document form a group, for which the
document is fetched once. Groups are listed in the order of their keys, and the layers of a group in
the order in which they were given.
-/

namespace MapServices

/-- The layers that share a document. -/
structure LayerGroup where
  key : ServiceKey
  first : Layer
  /-- The layers after the first one. -/
  others : List Layer := []
deriving Inhabited

namespace LayerGroup

/-- The layers of the group. -/
def layers (g : LayerGroup) : List Layer := g.first :: g.others

/-- The credentials with which the document is fetched: those of the first layer. -/
def credentials (g : LayerGroup) : Option Credentials := g.first.credentials

/-- The request for the document. -/
def request (g : LayerGroup) : FetchRequest := .ofKey g.key g.credentials

/-- The numbers of the layers of the group. -/
def layerIds (g : LayerGroup) : List Int := g.layers.map (·.id)

/-- Whether a layer of the group has other credentials than the first one. -/
def hasMixedCredentials (g : LayerGroup) : Bool :=
  g.others.any fun l => l.credentials ≠ g.credentials

/-- The group with one more layer. -/
def add (g : LayerGroup) (l : Layer) : LayerGroup := { g with others := g.others ++ [l] }

end LayerGroup

/-- Groups of layers by key. -/
abbrev LayerGroups := SortedMap ServiceKey LayerGroup

namespace LayerGroups

/-- Puts a layer into the group of its key. Layers that are not refreshed in groups are left out. -/
def add (groups : LayerGroups) (l : Layer) : LayerGroups :=
  if l.serviceType.refreshesInGroups then
    let key := ServiceKey.ofLayer l
    groups.alter key fun
      | none => { key, first := l }
      | some g => g.add l
  else groups

/-- The groups of a list of layers. -/
def ofLayers (layers : List Layer) : LayerGroups := layers.foldl add ∅

/-- A notice for each group whose layers have different credentials. -/
def notices (groups : LayerGroups) : List Notice :=
  (groups.values.filter LayerGroup.hasMixedCredentials).map fun g =>
    .mixedCredentials g.key g.layerIds

end LayerGroups

end MapServices
