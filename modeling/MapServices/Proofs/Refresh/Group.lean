import Mathlib.Data.List.Dedup
import Mathlib.Data.List.Induction
import Mathlib.Data.List.Perm.Basic
import MapServices.Proofs.Sorted.Map
import MapServices.Refresh.Group

/-!
# Groups as parts of a list of layers

The groups of a list of layers are read off the list: a group has the layers of the list that
belong to its key, in the order of the list.

* `get?_ofLayers`: what is found under a key, in terms of the list.
* `perm_flatMap_layers`: each layer that is refreshed in groups stands in one group.
* `perm_keys`: there is one group for each key of such a layer.
-/

namespace MapServices

/-! ## Splitting a list by a key -/

/-- The parts of a list that have one key each make up the whole list. -/
theorem perm_flatMap_filter_key {α β : Type} [DecidableEq β] (key : α → β) (ks : List β)
    (xs : List α) (hks : ks.Nodup) (h : ∀ x ∈ xs, key x ∈ ks) :
    (ks.flatMap fun k => xs.filter (key · = k)).Perm xs := by
  induction ks generalizing xs with
  | nil =>
    have hxs : xs = [] := List.eq_nil_iff_forall_not_mem.2 fun x hx => by simpa using h x hx
    simp [hxs]
  | cons k ks ih =>
    obtain ⟨hk, hks⟩ := List.nodup_cons.1 hks
    -- the other keys do not see the layers of the first one
    have hothers : (ks.flatMap fun k' => xs.filter (key · = k')) =
        ks.flatMap fun k' => (xs.filter fun x => !decide (key x = k)).filter (key · = k') := by
      apply List.flatMap_congr
      intro k' hk'
      rw [List.filter_filter]
      apply List.filter_congr
      intro x _
      by_cases hx : key x = k'
      · have : k' ≠ k := by
          rintro rfl
          exact hk hk'
        simp [hx, this]
      · simp [hx]
    have hrest := ih (xs.filter fun x => !decide (key x = k)) hks (by
      intro x hx
      obtain ⟨hx, hne⟩ := List.mem_filter.1 hx
      have hmem := h x hx
      simp only [Bool.not_eq_true', decide_eq_false_iff_not] at hne
      simpa [hne] using hmem)
    rw [List.flatMap_cons, hothers]
    exact (hrest.append_left _).trans (List.filter_append_perm _ _)

namespace Layer

/-- Whether the layer is refreshed in the group of the key. -/
def belongsTo (k : ServiceKey) (l : Layer) : Bool :=
  l.serviceType.refreshesInGroups && decide (ServiceKey.ofLayer l = k)

theorem belongsTo_iff {k : ServiceKey} {l : Layer} :
    l.belongsTo k ↔ l.serviceType.refreshesInGroups ∧ ServiceKey.ofLayer l = k := by
  simp [belongsTo]

end Layer

namespace LayerGroup

/-- The group of the given layers, if there are any. -/
def ofMembers? (k : ServiceKey) : List Layer → Option LayerGroup
  | [] => none
  | l :: rest => some { key := k, first := l, others := rest }

theorem ofMembers?_append (k : ServiceKey) (members : List Layer) (l : Layer) :
    ofMembers? k (members ++ [l]) =
      some (match ofMembers? k members with
        | none => { key := k, first := l }
        | some g => g.add l) := by
  cases members <;> rfl

theorem ofMembers?_eq_some {k : ServiceKey} {members : List Layer} {g : LayerGroup}
    (h : ofMembers? k members = some g) : g.key = k ∧ g.layers = members := by
  cases members with
  | nil => cases h
  | cons l rest => cases h; exact ⟨rfl, rfl⟩

end LayerGroup

namespace LayerGroups

open Layer

theorem get?_add (groups : LayerGroups) (l : Layer) (k : ServiceKey) :
    (groups.add l).get? k =
      if l.belongsTo k then
        some (match groups.get? k with
          | none => { key := k, first := l }
          | some g => g.add l)
      else groups.get? k := by
  unfold add belongsTo
  by_cases hl : l.serviceType.refreshesInGroups
  · simp only [hl, if_true, Bool.true_and, decide_eq_true_eq]
    rw [SortedMap.alter, SortedMap.get?_insert]
    by_cases hk : ServiceKey.ofLayer l = k
    · subst hk
      refine (if_pos rfl).trans (Eq.trans ?_ (if_pos rfl).symm)
      cases SortedMap.get? groups (ServiceKey.ofLayer l) with
      | none => rfl
      | some g => rfl
    · simp [hk, Ne.symm hk]
  · simp [hl]

/-- Under a key the group of all layers of the list is found that belong to it. -/
theorem get?_ofLayers (layers : List Layer) (k : ServiceKey) :
    (ofLayers layers).get? k = LayerGroup.ofMembers? k (layers.filter (belongsTo k)) := by
  induction layers using List.reverseRecOn with
  | nil => rfl
  | append_singleton layers l ih =>
    rw [ofLayers, List.foldl_concat, ← ofLayers, get?_add, ih, List.filter_append]
    by_cases h : l.belongsTo k
    · simp only [h, if_true, List.filter_cons_of_pos, List.filter_nil]
      rw [LayerGroup.ofMembers?_append]
    · simp [h]

theorem isSome_get?_ofLayers {layers : List Layer} {k : ServiceKey} :
    ((ofLayers layers).get? k).isSome ↔ ∃ l ∈ layers, l.belongsTo k := by
  rw [get?_ofLayers]
  cases h : layers.filter (belongsTo k) with
  | nil =>
    rw [List.filter_eq_nil_iff] at h
    simpa [LayerGroup.ofMembers?] using h
  | cons l rest =>
    have hl : l ∈ layers.filter (belongsTo k) := h ▸ List.mem_cons_self
    simpa [LayerGroup.ofMembers?] using ⟨l, List.mem_filter.1 hl⟩

/-- A group has the layers of the list that belong to its key. -/
theorem mem_values_iff {layers : List Layer} {g : LayerGroup} :
    g ∈ (ofLayers layers).values ↔
      LayerGroup.ofMembers? g.key (layers.filter (belongsTo g.key)) = some g := by
  rw [SortedMap.mem_values_iff]
  constructor
  · rintro ⟨k, hk⟩
    rw [get?_ofLayers] at hk
    rw [(LayerGroup.ofMembers?_eq_some hk).1, hk]
  · intro h
    exact ⟨g.key, by rw [get?_ofLayers, h]⟩

theorem layers_of_mem_values {layers : List Layer} {g : LayerGroup}
    (h : g ∈ (ofLayers layers).values) : g.layers = layers.filter (belongsTo g.key) :=
  (LayerGroup.ofMembers?_eq_some (mem_values_iff.1 h)).2

/-- The credentials of a group are those of the first layer of the list that belongs to it. -/
theorem credentials_of_mem_values {layers : List Layer} {g : LayerGroup}
    (h : g ∈ (ofLayers layers).values) :
    g.credentials = (layers.find? (belongsTo g.key)).bind Layer.credentials := by
  rw [← List.head?_filter, ← layers_of_mem_values h]
  rfl

theorem map_key_values (layers : List Layer) :
    (ofLayers layers).values.map LayerGroup.key = (ofLayers layers).keys := by
  rw [SortedMap.values, SortedMap.keys, List.map_map]
  apply List.map_congr_left
  intro e he
  obtain ⟨k, g⟩ := e
  have hg := SortedMap.mem_entries_iff.1 he
  rw [get?_ofLayers] at hg
  exact (LayerGroup.ofMembers?_eq_some hg).1

/-! ## Every layer in one group -/

/-- The layers of a list that are refreshed in groups. -/
def members (layers : List Layer) : List Layer :=
  layers.filter (·.serviceType.refreshesInGroups)

/-- The different keys of the layers of a list that are refreshed in groups. -/
def keysOf (layers : List Layer) : List ServiceKey :=
  ((members layers).map ServiceKey.ofLayer).dedup

theorem mem_keysOf {layers : List Layer} {k : ServiceKey} :
    k ∈ keysOf layers ↔ ∃ l ∈ layers, l.belongsTo k := by
  simp [keysOf, members, belongsTo_iff, and_assoc]

/-- There is one group for each key. -/
theorem perm_keys (layers : List Layer) : (ofLayers layers).keys.Perm (keysOf layers) := by
  apply (List.perm_ext_iff_of_nodup (SortedMap.nodup_keys _) (List.nodup_dedup _)).2
  intro k
  rw [SortedMap.mem_keys_iff, isSome_get?_ofLayers]
  exact mem_keysOf.symm

theorem filter_members (layers : List Layer) (k : ServiceKey) :
    (members layers).filter (ServiceKey.ofLayer · = k) = layers.filter (belongsTo k) := by
  rw [members, List.filter_filter]
  exact List.filter_congr fun l _ => Bool.and_comm _ _

/-- Each layer that is refreshed in groups stands in one group. -/
theorem perm_flatMap_layers (layers : List Layer) :
    ((ofLayers layers).values.flatMap LayerGroup.layers).Perm (members layers) := by
  have hgroups : (ofLayers layers).values.flatMap LayerGroup.layers =
      (ofLayers layers).keys.flatMap fun k =>
        (members layers).filter (ServiceKey.ofLayer · = k) := by
    rw [← map_key_values, List.flatMap_map]
    apply List.flatMap_congr
    intro g hg
    rw [filter_members, layers_of_mem_values hg]
  rw [hgroups]
  apply perm_flatMap_filter_key _ _ _ (SortedMap.nodup_keys _)
  intro l hl
  obtain ⟨hl, htype⟩ := List.mem_filter.1 hl
  rw [SortedMap.mem_keys_iff, isSome_get?_ofLayers]
  exact ⟨l, hl, belongsTo_iff.2 ⟨htype, rfl⟩⟩

/-! ### Counting -/

theorem size_ofLayers (layers : List Layer) :
    (ofLayers layers).size = (keysOf layers).length := by
  rw [← (perm_keys layers).length_eq, SortedMap.keys, List.length_map]
  rfl

theorem countP_values (layers : List Layer) (p : ServiceKey → Bool) :
    (ofLayers layers).values.countP (fun g => p g.key) = (keysOf layers).countP p := by
  rw [← (perm_keys layers).countP_eq, ← map_key_values, List.countP_map]
  rfl

/-- Layers that are refreshed in groups may be counted group by group. -/
theorem countP_flatMap_layers (layers : List Layer) {p : Layer → Bool}
    (hp : ∀ l, p l → l.serviceType.refreshesInGroups) :
    ((ofLayers layers).values.flatMap LayerGroup.layers).countP p = layers.countP p := by
  rw [(perm_flatMap_layers layers).countP_eq, members, List.countP_filter]
  apply List.countP_congr
  intro l _
  simpa using hp l

end LayerGroups

end MapServices
