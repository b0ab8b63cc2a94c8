import MapServices.Proofs.Database.Layers
import MapServices.Proofs.Sorted.Map

/-!
# A table of layers beside a store in memory

A table of layers answers as a store in memory does that was started with the layers which its rows
hold, and holds what the store holds, except that the table gives the scales of a layer back only as
far as their digits are read as the doubles that they were written for. So the store in memory is
given each layer with the properties that are found after they were stored.

* `LayerTable.layers_insert`: writing the derived columns of a row changes one of the layers.
* `LayerTable.IsShown.attempt`: one update keeps table and store together.
* `LayerTable.IsShown.run`: so does any sequence of updates.
-/

namespace MapServices

/-! ## Derived properties that were stored -/

/-- The properties that are found after they were stored: none if a scale cannot be read. -/
def LayerCapabilities.settled (c : LayerCapabilities) : LayerCapabilities :=
  match Json.reread c.minScale, Json.reread c.maxScale with
  | some minScale, some maxScale => { c with minScale, maxScale }
  | _, _ => {}

/-- The layer with the properties that are found after they were stored. -/
def Layer.settled (l : Layer) : Layer := { l with capabilities := l.capabilities.settled }

namespace LayerRow

theorem readCapabilities_fst (r : LayerRow) (id : Int) :
    (r.readCapabilities id).1 = (r.capabilities.bind LayerCapabilities.ofJson?).getD {} := by
  unfold readCapabilities
  cases r.capabilities with
  | none => rfl
  | some stored =>
    cases hread : LayerCapabilities.ofJson? stored with
    | none => simp [hread]
    | some c => simp [hread]

theorem readCapabilities_write_fst (r : LayerRow) (l : Layer) (id : Int) :
    ((r.write l).readCapabilities id).1 = l.capabilities.settled := by
  rw [readCapabilities_write, LayerCapabilities.settled]
  cases Json.reread l.capabilities.minScale with
  | none => rfl
  | some minScale =>
    cases Json.reread l.capabilities.maxScale with
    | none => rfl
    | some maxScale => rfl

theorem toLayer_write (r : LayerRow) (l : Layer) (id : Int) (serviceType : ServiceType) :
    (r.write l).toLayer id serviceType =
      LayerStore.withDerived (r.toLayer id serviceType) l.settled := by
  rw [toLayer, readCapabilities_write_fst]
  rfl

/-- The layer that a row holds, without a notice. -/
def listed? (id : Int) (r : LayerRow) : Option Layer := (r.layer? id).map Prod.fst

theorem listed?_eq_some_iff {r : LayerRow} {id : Int} {l : Layer} :
    r.listed? id = some l ↔
      ∃ serviceType, ServiceType.ofName r.layerType = .ok serviceType ∧
        l = r.toLayer id serviceType := by
  unfold listed? layer?
  cases ServiceType.ofName r.layerType with
  | error e => simp
  | ok serviceType => simp [eq_comm]

theorem id_of_listed? {r : LayerRow} {id : Int} {l : Layer} (h : r.listed? id = some l) :
    l.id = id := by
  obtain ⟨serviceType, -, rfl⟩ := listed?_eq_some_iff.1 h
  rfl

theorem listed?_of_type_eq {r r' : LayerRow} {id : Int} (htype : r'.layerType = r.layerType)
    {f : Layer → Layer}
    (hf : ∀ serviceType, r'.toLayer id serviceType = f (r.toLayer id serviceType)) :
    r'.listed? id = (r.listed? id).map f := by
  simp only [listed?, layer?, htype]
  cases ServiceType.ofName r.layerType with
  | error e => rfl
  | ok serviceType => exact congrArg some (hf serviceType)

end LayerRow

/-- Properties are found as they were stored just if both scales are. -/
theorem LayerCapabilities.settled_eq_iff {c : LayerCapabilities} :
    c.settled = c ↔ c.KeepsScales := by
  have hiff := LayerRow.readCapabilities_write_eq_iff default
    { (default : Layer) with capabilities := c } 0
  rwa [LayerRow.readCapabilities_write_fst] at hiff

namespace LayerTable

variable {t : LayerTable} {s : LayerStore} {l : Layer} {id : Int} {row : LayerRow}

/-! ## What the rows hold -/

theorem layers_eq (t : LayerTable) :
    t.layers = t.rows.entries.filterMap fun e => e.2.listed? e.1 := by
  rw [layers, held, List.map_filterMap]
  rfl

/-- The rows of known types hold layers. -/
theorem mem_layers_iff : l ∈ t.layers ↔ ∃ row serviceType, t.rows.get? l.id = some row ∧
    ServiceType.ofName row.layerType = .ok serviceType ∧ l = row.toLayer l.id serviceType := by
  rw [layers_eq, List.mem_filterMap]
  constructor
  · rintro ⟨⟨id, row⟩, he, hl⟩
    obtain ⟨serviceType, htype, rfl⟩ := LayerRow.listed?_eq_some_iff.1 hl
    exact ⟨row, serviceType, SortedMap.mem_entries_iff.1 he, htype, rfl⟩
  · rintro ⟨row, serviceType, hrow, hlisted⟩
    exact ⟨(l.id, row), SortedMap.mem_entries_iff.2 hrow,
      LayerRow.listed?_eq_some_iff.2 ⟨serviceType, hlisted⟩⟩

theorem mem_ids_iff : id ∈ t.layers.map Layer.id ↔ ∃ row serviceType,
    t.rows.get? id = some row ∧ ServiceType.ofName row.layerType = .ok serviceType := by
  rw [List.mem_map]
  constructor
  · rintro ⟨l, hl, rfl⟩
    obtain ⟨row, serviceType, hrow, htype, -⟩ := mem_layers_iff.1 hl
    exact ⟨row, serviceType, hrow, htype⟩
  · rintro ⟨row, serviceType, hrow, htype⟩
    exact ⟨row.toLayer id serviceType, mem_layers_iff.2 ⟨row, serviceType, hrow, htype, rfl⟩, rfl⟩

/-- The layers come in the order of their numbers. -/
theorem pairwise_layers (t : LayerTable) : t.layers.Pairwise fun l l' => l.id < l'.id := by
  rw [layers_eq, List.pairwise_filterMap]
  refine t.rows.ascending.imp fun {e e'} hlt l hl l' hl' => ?_
  rw [LayerRow.id_of_listed? hl, LayerRow.id_of_listed? hl']
  exact Int.compare_eq_lt.1 hlt

/-- Writing the derived columns of a row changes one of the layers. -/
theorem layers_insert (row' : LayerRow) (f : Layer → Layer) (hrow : t.rows.get? id = some row)
    (htype : row'.layerType = row.layerType)
    (hf : ∀ serviceType, row'.toLayer id serviceType = f (row.toLayer id serviceType)) :
    { t with rows := t.rows.insert id row' }.layers =
      t.layers.map fun l => if l.id = id then f l else l := by
  rw [layers_eq, layers_eq, SortedMap.entries_insert_of_get? hrow, List.filterMap_map,
    List.map_filterMap]
  refine List.filterMap_congr fun e he => ?_
  obtain ⟨id', row''⟩ := e
  by_cases hid : id' = id
  · subst hid
    obtain rfl : row = row'' := Option.some.inj (hrow.symm.trans (SortedMap.mem_entries_iff.1 he))
    rw [Function.comp_apply, if_pos rfl, LayerRow.listed?_of_type_eq htype hf]
    exact Option.map_congr fun l hl => (if_pos (LayerRow.id_of_listed? hl)).symm
  · rw [Function.comp_apply, if_neg hid]
    refine Option.map_id_apply.symm.trans (Option.map_congr fun l hl => ?_)
    rw [LayerRow.id_of_listed? hl, if_neg hid]
    rfl

/-- An update of a layer that is held changes the derived fields of that layer. -/
theorem update_of_listed (h : l.id ∈ t.layers.map Layer.id) : ∃ t', t.update l = .ok t' ∧
    t'.layers = t.layers.map fun old =>
      if old.id = l.id then LayerStore.withDerived old l.settled else old := by
  obtain ⟨row, serviceType, hrow, -⟩ := mem_ids_iff.1 h
  refine ⟨{ t with rows := t.rows.insert l.id (row.write l) }, ?_, ?_⟩
  · rw [update, hrow]
  · exact layers_insert (row.write l) (LayerStore.withDerived · l.settled) hrow rfl
      fun serviceType => row.toLayer_write l l.id serviceType

theorem update_of_absent (h : t.rows.get? l.id = none) :
    t.update l = .error (.database s!"Layer {l.id} does not exist") := by
  rw [update, h]

/-- Updates neither add rows nor take any away. -/
theorem isSome_get?_update {t' : LayerTable} (h : t.update l = .ok t') (id : Int) :
    (t'.rows.get? id).isSome = (t.rows.get? id).isSome := by
  unfold update at h
  cases hrow : t.rows.get? l.id with
  | none =>
    rw [hrow] at h
    cases h
  | some row =>
    rw [hrow] at h
    cases h
    rw [SortedMap.get?_insert]
    split
    · rename_i hid
      rw [hid, hrow]
      rfl
    · rfl

end LayerTable

/-! ## The store in memory -/

namespace LayerStore

variable {s : LayerStore} {l : Layer} {layers : List Layer}

theorem values_ofList (h : layers.Pairwise fun l l' => l.id < l'.id) :
    (ofList layers).layers.values = layers := by
  let m : SortedMap Int Layer :=
    ⟨layers.map fun l => (l.id, l), List.pairwise_map.2 (h.imp Int.compare_eq_lt.2)⟩
  have hlayers : (ofList layers).layers = m := SortedMap.ofList_entries m
  rw [hlayers, SortedMap.values, List.map_map]
  exact List.map_id' _

theorem values_replace {old : Layer} (h : s.get? l.id = some old) :
    (s.replace h).layers.values = s.layers.values.map fun l' =>
      if l'.id = l.id then withDerived l' l else l' := by
  have hentries : (s.replace h).layers.entries = s.layers.entries.map fun e =>
      if e.1 = l.id then (l.id, withDerived old l) else e := SortedMap.entries_insert_of_get? h _
  rw [SortedMap.values, SortedMap.values, hentries, List.map_map, List.map_map]
  refine List.map_congr_left fun e he => ?_
  obtain ⟨id, l'⟩ := e
  have hid : l'.id = id := s.numbered _ he
  subst hid
  simp only [Function.comp_apply]
  split
  · rename_i hid
    have hold : s.get? l.id = some l' := hid ▸ SortedMap.mem_entries_iff.1 he
    obtain rfl : old = l' := Option.some.inj (h.symm.trans hold)
    rfl
  · rfl

/-- An update of a layer that the store has changes the derived fields of that layer. -/
theorem update_of_mem_ids (hfailing : l.id ∉ s.failing)
    (h : l.id ∈ s.layers.values.map Layer.id) : ∃ s', s.update l = .ok s' ∧
      (s'.layers.values = s.layers.values.map fun old =>
        if old.id = l.id then withDerived old l else old) ∧
      s'.failing = s.failing ∧ s'.loadRefused = s.loadRefused := by
  obtain ⟨old, hold, hid⟩ := List.mem_map.1 h
  have hget : s.get? l.id = some old := by
    rw [← hid]
    exact RefreshJob.get?_of_mem_values hold
  unfold update
  rw [if_neg hfailing]
  split
  · rename_i hnone
    rw [hnone] at hget
    cases hget
  · rename_i hold'
    exact ⟨_, rfl, values_replace hold', rfl, rfl⟩

theorem update_of_not_mem_ids (hfailing : l.id ∉ s.failing)
    (h : l.id ∉ s.layers.values.map Layer.id) :
    s.update l = .error (.database s!"Layer {l.id} does not exist") := by
  unfold update
  rw [if_neg hfailing]
  split
  · rfl
  · rename_i old hold
    refine absurd (List.mem_map.2 ⟨old, ?_, id_of_get? hold⟩) h
    exact SortedMap.mem_values_iff.2 ⟨l.id, hold⟩

end LayerStore

/-! ## Updates one after the other -/

namespace LayerUpdates

variable {σ : Type} {update : σ → Layer → Except ServiceError σ}

/-- The answer to an update, and what is stored after it: what was stored before, if it fails. -/
def attempt (update : σ → Layer → Except ServiceError σ) (s : σ) (l : Layer) :
    Except ServiceError Unit × σ :=
  match update s l with
  | .ok s' => (.ok (), s')
  | .error e => (.error e, s)

/-- The answers to updates one after the other, and what is stored after them. -/
def run (update : σ → Layer → Except ServiceError σ) (s : σ) :
    List Layer → List (Except ServiceError Unit) × σ
  | [] => ([], s)
  | l :: ls =>
    let (answer, s) := attempt update s l
    let (answers, s) := run update s ls
    (answer :: answers, s)

end LayerUpdates

namespace LayerTable

open LayerUpdates

variable {t : LayerTable} {s : LayerStore} {l : Layer} {id : Int}

/-- The store in memory lists what the rows hold, and rejects no update. -/
structure IsShown (t : LayerTable) (s : LayerStore) : Prop where
  values : s.layers.values = t.layers
  failing : s.failing = []
  loadRefused : s.loadRefused = false

theorem isShown_ofList (t : LayerTable) : t.IsShown (.ofList t.layers) :=
  ⟨LayerStore.values_ofList t.pairwise_layers, rfl, rfl⟩

theorem IsShown.all (h : t.IsShown s) : s.all = .ok t.layers := by
  rw [LayerStore.all, h.loadRefused, h.values]
  rfl

/-- The number is that of a layer that is held, or of no row at all. -/
def Addresses (t : LayerTable) (id : Int) : Prop :=
  id ∈ t.layers.map Layer.id ∨ t.rows.get? id = none

theorem attempt_of_listed (h : l.id ∈ t.layers.map Layer.id) :
    (attempt update t l).1 = .ok () ∧ (attempt update t l).2.layers = t.layers.map fun old =>
      if old.id = l.id then LayerStore.withDerived old l.settled else old := by
  obtain ⟨t', ht', hall⟩ := update_of_listed h
  rw [attempt, ht']
  exact ⟨rfl, hall⟩

theorem attempt_of_absent (h : t.rows.get? l.id = none) :
    attempt update t l = (.error (.database s!"Layer {l.id} does not exist"), t) := by
  rw [attempt, update_of_absent h]

theorem isSome_get?_attempt (t : LayerTable) (l : Layer) (id : Int) :
    ((attempt update t l).2.rows.get? id).isSome = (t.rows.get? id).isSome := by
  unfold attempt
  split
  · rename_i ht'
    exact isSome_get?_update ht' id
  · rfl

theorem Addresses.attempt (h : t.Addresses id) (hl : t.Addresses l.id) :
    (attempt update t l).2.Addresses id := by
  rcases hl with hlisted | habsent
  · rcases h with h | h
    · refine .inl ?_
      have hids : (LayerUpdates.attempt update t l).2.layers.map Layer.id =
          t.layers.map Layer.id := by
        rw [(attempt_of_listed hlisted).2, List.map_map]
        refine List.map_congr_left fun old _ => ?_
        simp only [Function.comp_apply]
        split <;> rfl
      rwa [hids]
    · refine .inr ?_
      rw [← Option.not_isSome_iff_eq_none] at h ⊢
      rwa [isSome_get?_attempt]
  · rwa [attempt_of_absent habsent]

/-- One update keeps table and store together. -/
theorem IsShown.attempt (h : t.IsShown s) (hl : t.Addresses l.id) :
    (attempt update t l).1 = (attempt LayerStore.update s l.settled).1 ∧
      (attempt update t l).2.IsShown (attempt LayerStore.update s l.settled).2 := by
  have hfailing : l.settled.id ∉ s.failing := by simp [h.failing]
  rcases hl with hlisted | habsent
  · obtain ⟨hanswer, hall⟩ := attempt_of_listed hlisted
    rw [← h.values] at hlisted
    obtain ⟨s', hs', hvalues, hfailing', hload⟩ :=
      LayerStore.update_of_mem_ids (l := l.settled) hfailing hlisted
    have hstore : LayerUpdates.attempt LayerStore.update s l.settled = (.ok (), s') := by
      rw [LayerUpdates.attempt, hs']
    rw [hstore]
    refine ⟨hanswer, ?_, hfailing'.trans h.failing, hload.trans h.loadRefused⟩
    rw [hvalues, hall, h.values]
    rfl
  · have hunlisted : l.settled.id ∉ s.layers.values.map Layer.id := by
      rw [h.values, mem_ids_iff]
      rintro ⟨row, -, hrow, -⟩
      cases habsent.symm.trans hrow
    rw [attempt_of_absent habsent, LayerUpdates.attempt,
      LayerStore.update_of_not_mem_ids hfailing hunlisted]
    exact ⟨rfl, h⟩

/-- Updates one after the other keep table and store together. -/
theorem IsShown.run {updates : List Layer} (h : t.IsShown s)
    (hids : ∀ l ∈ updates, t.Addresses l.id) :
    (run update t updates).1 = (run LayerStore.update s (updates.map Layer.settled)).1 ∧
      (run update t updates).2.IsShown
        (run LayerStore.update s (updates.map Layer.settled)).2 := by
  induction updates generalizing t s with
  | nil => exact ⟨rfl, h⟩
  | cons l updates ih =>
    obtain ⟨hl, hrest⟩ := List.forall_mem_cons.1 hids
    obtain ⟨hanswer, hshown⟩ := h.attempt hl
    obtain ⟨hanswers, hshown'⟩ := ih hshown fun l' hl' => (hrest l' hl').attempt hl
    exact ⟨congrArg₂ List.cons hanswer hanswers, hshown'⟩

/-! ## What the columns of one row do -/

/-- The table with other stored properties in one row. -/
def withStored (t : LayerTable) (id : Int) (stored : Option Json) : LayerTable :=
  match t.rows.get? id with
  | none => t
  | some row => { t with rows := t.rows.insert id { row with capabilities := stored } }

/-- The stored properties of a row are those of its layer, or none if they make no sense, and bear
on no other layer. -/
theorem layers_withStored (t : LayerTable) (id : Int) (stored : Option Json) :
    (t.withStored id stored).layers = t.layers.map fun l =>
      if l.id = id then
        { l with capabilities := (stored.bind LayerCapabilities.ofJson?).getD {} }
      else l := by
  cases hrow : t.rows.get? id with
  | none =>
    have hother : ∀ l ∈ t.layers, l.id ≠ id := by
      rintro l hl rfl
      obtain ⟨row, -, hrow', -⟩ := mem_layers_iff.1 hl
      cases hrow.symm.trans hrow'
    rw [withStored, hrow, List.map_congr_left fun l hl => if_neg (hother l hl), List.map_id']
  | some row =>
    rw [withStored, hrow]
    refine layers_insert { row with capabilities := stored } (fun l =>
      { l with capabilities := (stored.bind LayerCapabilities.ofJson?).getD {} }) hrow rfl
      fun serviceType => ?_
    rw [LayerRow.toLayer, LayerRow.readCapabilities_fst]
    rfl

end LayerTable

end MapServices
