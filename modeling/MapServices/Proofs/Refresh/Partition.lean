import MapServices.Proofs.Refresh.Group

/-!
# Layers are parted among groups

Each layer of a map or tile service stands in the one group of its key, as often as in the list and
in the order of the list, and layers of feature services stand in none. A group has the credentials
of its first layer, and there is a notice for each group in which another layer has other ones.

* `IsPartition` says this of any groups and a list of layers, without the way in which groups are
  made.
* `isPartition_ofLayers`: the groups of a list part its layers.
-/

namespace MapServices

namespace LayerGroup

/-- Some layer of the group has other credentials than the first one. -/
def IsMixed (g : LayerGroup) : Prop := ∃ l ∈ g.layers, l.credentials ≠ g.first.credentials

theorem hasMixedCredentials_iff {g : LayerGroup} : g.hasMixedCredentials ↔ g.IsMixed := by
  rw [hasMixedCredentials, List.any_eq_true]
  constructor
  · rintro ⟨l, hl, hother⟩
    exact ⟨l, List.mem_cons_of_mem _ hl, of_decide_eq_true hother⟩
  · rintro ⟨l, hl, hother⟩
    rcases List.mem_cons.1 hl with rfl | hl
    · exact absurd rfl hother
    · exact ⟨l, hl, decide_eq_true hother⟩

end LayerGroup

namespace LayerGroups

open Layer

/-- The groups part the layers of map and tile services by their keys. -/
structure IsPartition (layers : List Layer) (groups : LayerGroups) : Prop where
  /-- The groups come in the order of their keys, so no two of them have the same key. -/
  ascending : groups.values.Pairwise fun g g' => compare g.key g'.key = .lt
  /-- A group is found under its own key. -/
  keys : groups.keys = groups.values.map LayerGroup.key
  /-- Every layer of a map or tile service is in the groups as often as in the list, and no other
  layer is. -/
  perm : (groups.values.flatMap LayerGroup.layers).Perm (layers.filter (·.serviceType ≠ .wfs))
  nonempty : ∀ g ∈ groups.values, g.layers ≠ []
  key_eq : ∀ g ∈ groups.values, ∀ l ∈ g.layers, ServiceKey.ofLayer l = g.key
  inOrder : ∀ g ∈ groups.values, g.layers.Sublist layers
  /-- The credentials are those of the first layer in the list that has the key. -/
  credentials : ∀ g ∈ groups.values,
    (layers.find? (ServiceKey.ofLayer · = g.key)).map Layer.credentials = some g.credentials
  /-- There is one notice for each group of different credentials, in the order of the groups. -/
  notices : ∃ mixed : List LayerGroup, mixed.Sublist groups.values ∧
    (∀ g ∈ groups.values, g ∈ mixed ↔ g.IsMixed) ∧
    groups.notices = mixed.map fun g => .mixedCredentials g.key (g.layers.map Layer.id)

theorem refreshesInGroups_iff {serviceType : ServiceType} :
    serviceType.refreshesInGroups ↔ serviceType ≠ .wfs := by
  cases serviceType <;> decide

/-- The type is part of the key, so layers with the key of a group are refreshed in groups. -/
theorem belongsTo_of_key_eq {l l' : Layer} {k : ServiceKey} (h : l.belongsTo k)
    (hkey : ServiceKey.ofLayer l' = k) : l'.belongsTo k := by
  obtain ⟨hrefreshes, rfl⟩ := belongsTo_iff.1 h
  have htype : l'.serviceType = l.serviceType := congrArg ServiceKey.serviceType hkey
  exact belongsTo_iff.2 ⟨by rwa [htype], hkey⟩

theorem belongsTo_first {layers : List Layer} {g : LayerGroup}
    (h : g ∈ (ofLayers layers).values) : g.first.belongsTo g.key := by
  have hfirst : g.first ∈ layers.filter (belongsTo g.key) :=
    layers_of_mem_values h ▸ List.mem_cons_self
  exact (List.mem_filter.1 hfirst).2

theorem ascending_values (layers : List Layer) :
    (ofLayers layers).values.Pairwise fun g g' => compare g.key g'.key = .lt := by
  have hkeys : (ofLayers layers).keys.Pairwise fun k k' => compare k k' = .lt :=
    List.pairwise_map.2 (ofLayers layers).ascending
  rwa [← map_key_values, List.pairwise_map] at hkeys

/-- The first layer with the key of a group is the first one of the group. -/
theorem find?_key {layers : List Layer} {g : LayerGroup} (h : g ∈ (ofLayers layers).values) :
    layers.find? (ServiceKey.ofLayer · = g.key) = some g.first := by
  have hbelongs : (fun l => decide (ServiceKey.ofLayer l = g.key)) = belongsTo g.key := by
    funext l
    rw [Bool.eq_iff_iff, decide_eq_true_eq]
    exact ⟨belongsTo_of_key_eq (belongsTo_first h), fun hl => (belongsTo_iff.1 hl).2⟩
  rw [hbelongs, ← List.head?_filter, ← layers_of_mem_values h]
  rfl

/-- The groups of a list part its layers. -/
theorem isPartition_ofLayers (layers : List Layer) : IsPartition layers (ofLayers layers) where
  ascending := ascending_values layers
  keys := (map_key_values layers).symm
  perm := by
    have hmembers : members layers = layers.filter (·.serviceType ≠ .wfs) := by
      refine List.filter_congr fun l _ => ?_
      rw [Bool.eq_iff_iff, decide_eq_true_eq]
      exact refreshesInGroups_iff
    rw [← hmembers]
    exact perm_flatMap_layers layers
  nonempty _ _ := List.cons_ne_nil _ _
  key_eq g hg l hl := by
    rw [layers_of_mem_values hg] at hl
    exact (belongsTo_iff.1 (List.mem_filter.1 hl).2).2
  inOrder g hg := by
    rw [layers_of_mem_values hg]
    exact List.filter_sublist
  credentials g hg := by
    rw [find?_key hg]
    rfl
  notices := by
    refine ⟨_, List.filter_sublist, fun g hg => ?_, rfl⟩
    rw [List.mem_filter, LayerGroup.hasMixedCredentials_iff]
    exact and_iff_right hg

end LayerGroups

end MapServices
