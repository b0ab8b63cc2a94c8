import MapServices.Layer.Basic

/-!
# A store of layers in memory

The store holds the configured layers by number. Its users may write the derived properties of a
layer and the time of their derivation, and nothing else: whatever else an updated layer says is
ignored.

* `id_of_get?`: a layer is found under its own number.
* `get?_update`: an update replaces the two derived fields of one layer.
-/

namespace MapServices

namespace Layer

/-- Whether every layer of a table stands under its own number. -/
def Numbered (layers : SortedMap Int Layer) : Prop := ∀ e ∈ layers.entries, e.2.id = e.1

theorem Numbered.empty : Numbered ∅ := by
  intro e he
  cases he

theorem Numbered.insert {layers : SortedMap Int Layer} (h : Numbered layers) {id : Int} {l : Layer}
    (hid : l.id = id) : Numbered (layers.insert id l) := by
  intro e he
  rcases SortedMap.mem_insertInto he with rfl | he
  · exact hid
  · exact h e he

theorem Numbered.ofList (layers : List Layer) :
    Numbered (SortedMap.ofList (layers.map fun l => (l.id, l))) := by
  suffices h : ∀ m, Numbered m →
      Numbered ((layers.map fun l => (l.id, l)).foldl (fun m e => m.insert e.1 e.2) m) from
    h ∅ Numbered.empty
  induction layers with
  | nil => exact fun m hm => hm
  | cons l rest ih => exact fun m hm => ih _ (hm.insert rfl)

end Layer

/-- Layers by number. -/
structure LayerStore where
  layers : SortedMap Int Layer := ∅
  /-- Every layer stands under its own number. -/
  numbered : Layer.Numbered layers := by exact Layer.Numbered.empty
  /-- The layers whose updates are rejected. -/
  failing : List Int := []
  /-- How many updates succeeded so far. -/
  updates : Nat := 0
  /-- The store does not list its layers. -/
  loadRefused : Bool := false

namespace LayerStore

instance : Inhabited LayerStore := ⟨{}⟩

/-- The store of a list of layers; of several with one number the last one counts. -/
def ofList (layers : List Layer) : LayerStore where
  layers := SortedMap.ofList (layers.map fun l => (l.id, l))
  numbered := Layer.Numbered.ofList layers

/-- The layer with the given number. -/
def get? (s : LayerStore) (id : Int) : Option Layer := s.layers.get? id

/-- All layers in the order of their numbers, if the store lists them. -/
def all (s : LayerStore) : Except ServiceError (List Layer) :=
  if s.loadRefused then .error (.database "load refused") else .ok s.layers.values

/-- The store that rejects updates of a layer from now on. -/
def failUpdatesOf (s : LayerStore) (id : Int) : LayerStore := { s with failing := id :: s.failing }

/-- The layer with the derived fields of another one. -/
def withDerived (l updated : Layer) : Layer :=
  { l with capabilities := updated.capabilities, lastUpdated := updated.lastUpdated }

theorem id_of_get? {s : LayerStore} {id : Int} {l : Layer} (h : s.get? id = some l) :
    l.id = id :=
  s.numbered _ (SortedMap.mem_entries_of_get? h)

/-- The store with the derived fields of a layer replaced, when the layer is `old` at present. -/
def replace (s : LayerStore) {old updated : Layer} (h : s.get? updated.id = some old) :
    LayerStore :=
  { s with
    layers := s.layers.insert updated.id (withDerived old updated)
    numbered := s.numbered.insert (l := withDerived old updated) (id_of_get? h : old.id = _)
    updates := s.updates + 1 }

/-- Writes the derived properties of a layer. -/
def update (s : LayerStore) (l : Layer) : Except ServiceError LayerStore :=
  if l.id ∈ s.failing then .error (.database s!"Update rejected for layer {l.id}")
  else
    match h : s.get? l.id with
    | none => .error (.database s!"Layer {l.id} does not exist")
    | some _ => .ok (s.replace h)

theorem get?_replace {s : LayerStore} {old updated : Layer} (h : s.get? updated.id = some old)
    (id : Int) :
    (s.replace h).get? id = if id = updated.id then some (withDerived old updated) else s.get? id :=
  SortedMap.get?_insert ..

/-- An update replaces the two derived fields of one layer and leaves all other layers alone. -/
theorem get?_update {s s' : LayerStore} {l : Layer} (h : s.update l = .ok s') (id : Int) :
    s'.get? id = if id = l.id then (s.get? id).map (withDerived · l) else s.get? id := by
  unfold update at h
  split at h
  · simp at h
  · split at h
    · simp at h
    · rename_i old hold
      cases h
      rw [get?_replace]
      split
      · rename_i hid
        rw [hid, hold, Option.map_some]
      · rfl

end LayerStore

end MapServices
