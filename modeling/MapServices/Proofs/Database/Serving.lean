import MapServices.Proofs.Database.Updates

/-!
# A table of layers that serves as a store

Listing layers takes up the stored data of all rows first. If those of one row cannot be taken up,
no layer is listed. Otherwise the layers are listed that the rows of known types hold. Stored data
that make no sense bear on no layer but their own.

* `LayerTable.all_eq_error_iff`: when listing layers fails, and how.
* `LayerTable.get?_run`: each row has what the last update of its number wrote.
* `LayerTable.serves_as_store`: any sequence of updates.
-/

namespace MapServices

theorem LayerRow.refusal?_write_eq_none_iff {r : LayerRow} {l : Layer} :
    (r.write l).refusal? = none ↔ l.capabilities.ReadableScales :=
  LayerCapabilities.refusal?_toJson_eq_none_iff

namespace LayerTable

open LayerUpdates

variable {t : LayerTable} {l : Layer} {id : Int} {row : LayerRow} {refusal : Json.Refusal}

/-! ## Listing layers -/

/-- The stored data of the row cannot be taken up, but those of all rows before it. -/
structure FirstRefused (t : LayerTable) (id : Int) (row : LayerRow) (refusal : Json.Refusal) :
    Prop where
  get? : t.rows.get? id = some row
  refused : row.refusal? = some refusal
  before : ∀ id' < id, ∀ row', t.rows.get? id' = some row' → row'.refusal? = none

theorem refused?_eq_some_iff :
    t.refused? = some (row, refusal) ↔ ∃ id, t.FirstRefused id row refusal := by
  rw [refused?, List.findSome?_eq_some_iff]
  constructor
  · rintro ⟨front, ⟨id, row'⟩, back, hentries, hrow, hfront⟩
    obtain ⟨refusal', hrefused, heq⟩ := Option.map_eq_some_iff.1 hrow
    cases heq
    have hascending := hentries ▸ t.rows.ascending
    refine ⟨id, SortedMap.mem_entries_iff.1 (hentries ▸ by simp), hrefused,
      fun id' hid' row' hrow' => ?_⟩
    have hmem : (id', row') ∈ front := by
      have hmem := hentries ▸ SortedMap.mem_entries_iff.2 hrow'
      rcases List.mem_append.1 hmem with hmem | hmem
      · exact hmem
      · exfalso
        obtain ⟨-, hback, -⟩ := List.pairwise_append.1 hascending
        rcases List.mem_cons.1 hmem with heq | hmem
        · cases heq
          omega
        · have hlt := Int.compare_eq_lt.1 ((List.pairwise_cons.1 hback).1 _ hmem)
          omega
    simpa using hfront _ hmem
  · rintro ⟨id, hget, hrefused, hbefore⟩
    obtain ⟨front, back, hentries⟩ := List.append_of_mem (SortedMap.mem_entries_iff.2 hget)
    refine ⟨front, (id, row), back, hentries, by simp [hrefused], fun e he => ?_⟩
    have hlt := (List.pairwise_append.1 (hentries ▸ t.rows.ascending)).2.2 e he _
      List.mem_cons_self
    have hnone := hbefore e.1 (Int.compare_eq_lt.1 hlt) e.2
      (SortedMap.mem_entries_iff.1 (hentries ▸ List.mem_append_left _ he))
    simp [hnone]

theorem refused?_eq_none_iff :
    t.refused? = none ↔ ∀ id row, t.rows.get? id = some row → row.refusal? = none := by
  rw [refused?, List.findSome?_eq_none_iff]
  constructor
  · intro h id row hrow
    simpa using h _ (SortedMap.mem_entries_iff.2 hrow)
  · intro h e he
    simpa using h e.1 e.2 (SortedMap.mem_entries_iff.1 he)

/-- Listing layers fails because of the first row whose stored data cannot be taken up. -/
theorem all_eq_error_iff {e : ServiceError} : t.all = .error e ↔
    ∃ id row refusal, t.FirstRefused id row refusal ∧ e = t.refusalError row refusal := by
  unfold all
  cases hrefused : t.refused? with
  | none =>
    constructor
    · intro h
      cases h
    · rintro ⟨id, row, refusal, hfirst, -⟩
      cases hrefused.symm.trans (refused?_eq_some_iff.2 ⟨id, hfirst⟩)
  | some found =>
    obtain ⟨row, refusal⟩ := found
    constructor
    · rintro ⟨⟩
      obtain ⟨id, hfirst⟩ := refused?_eq_some_iff.1 hrefused
      exact ⟨id, row, refusal, hfirst, rfl⟩
    · rintro ⟨id, row', refusal', hfirst, rfl⟩
      cases hrefused.symm.trans (refused?_eq_some_iff.2 ⟨id, hfirst⟩)
      rfl

/-- Layers are listed if the stored data of each row can be taken up: those that the rows hold. -/
theorem all_eq_ok_iff {found : List Layer} : t.all.map Prod.fst = .ok found ↔
    (∀ id row, t.rows.get? id = some row → row.refusal? = none) ∧ found = t.layers := by
  rw [← refused?_eq_none_iff, all]
  cases t.refused? with
  | none => simp [Except.map, eq_comm]
  | some found => simp [Except.map]

/-! ## What a sequence of updates leaves behind -/

/-- The last update of a number. -/
def lastOf? (id : Int) (updates : List Layer) : Option Layer :=
  (updates.filter (·.id = id)).getLast?

/-- The row as the last update of its number leaves it. -/
def written (id : Int) (updates : List Layer) (row : LayerRow) : LayerRow :=
  ((lastOf? id updates).map row.write).getD row

theorem get?_attempt (t : LayerTable) (l : Layer) (id : Int) :
    (attempt update t l).2.rows.get? id =
      (t.rows.get? id).map fun row => if l.id = id then row.write l else row := by
  unfold attempt update
  cases hrow : t.rows.get? l.id with
  | none =>
    by_cases hid : l.id = id
    · simp [← hid, hrow]
    · simp [hid]
  | some row =>
    simp only [SortedMap.get?_insert]
    by_cases hid : id = l.id
    · simp [hid, hrow]
    · simp [hid, Ne.symm hid]

/-- Each row has what the last update of its number wrote. -/
theorem get?_run (t : LayerTable) (updates : List Layer) (id : Int) :
    (run update t updates).2.rows.get? id = (t.rows.get? id).map (written id updates) := by
  induction updates generalizing t with
  | nil => exact Option.map_id_apply.symm
  | cons l updates ih =>
    have hrun : (run update t (l :: updates)).2 =
        (run update (attempt update t l).2 updates).2 := rfl
    rw [hrun, ih, get?_attempt, Option.map_map]
    refine Option.map_congr fun row _ => ?_
    simp only [Function.comp_apply, written, lastOf?]
    by_cases hid : l.id = id
    · rw [if_pos hid, List.filter_cons_of_pos (by simpa using hid), List.getLast?_cons]
      cases (updates.filter (·.id = id)).getLast? with
      | none => rfl
      | some l' => rfl
    · rw [if_neg hid, List.filter_cons_of_neg (by simpa using hid)]

/-! ## The table as a store -/

/-- The table after updates. -/
def after (t : LayerTable) (updates : List Layer) : LayerTable := (run update t updates).2

theorem get?_withStored (t : LayerTable) (id : Int) (stored : Option Json) :
    (t.withStored id stored).rows.get? id =
      (t.rows.get? id).map fun row => { row with capabilities := stored } := by
  cases hrow : t.rows.get? id with
  | none => simp [withStored, hrow]
  | some row => simp [withStored, hrow, SortedMap.get?_insert]

/-- How the table serves after the given updates: beside a store in memory that was started with the
layers which its rows held at first, and by itself. -/
structure ServesAsStore (t : LayerTable) (updates : List Layer) : Prop where
  /-- Each update is answered as by the store that is given what will be found. -/
  answers : (run update t updates).1 =
    (run LayerStore.update (.ofList t.layers) (updates.map Layer.settled)).1
  /-- The layers are listed that the store lists, if the stored data of each row can be taken up. -/
  all_ok : ∀ found, (t.after updates).all.map Prod.fst = .ok found ↔
    (∀ id row, (t.after updates).rows.get? id = some row → row.refusal? = none) ∧
      (run LayerStore.update (.ofList t.layers) (updates.map Layer.settled)).2.all = .ok found
  /-- Otherwise none are listed, because of the first row whose data cannot be taken up. -/
  all_error : ∀ e, (t.after updates).all = .error e ↔ ∃ id row refusal,
    (t.after updates).FirstRefused id row refusal ∧
      e = (t.after updates).refusalError row refusal
  /-- Each row has what the last update of its number wrote, or what it had. -/
  rows : ∀ id, (t.after updates).rows.get? id = (t.rows.get? id).map (written id updates)
  /-- The layers are those of the rows of known types. -/
  mem_layers_iff : ∀ l, l ∈ (t.after updates).layers ↔ ∃ row serviceType,
    (t.after updates).rows.get? l.id = some row ∧
      ServiceType.ofName row.layerType = .ok serviceType ∧ l = row.toLayer l.id serviceType
  ascending : (t.after updates).layers.Pairwise fun l l' => l.id < l'.id
  /-- The next update of a layer that is held writes its derived fields and nothing else. -/
  listed : ∀ l, l.id ∈ (t.after updates).layers.map Layer.id →
    (attempt update (t.after updates) l).1 = .ok () ∧
      (attempt update (t.after updates) l).2.layers =
        (t.after updates).layers.map fun old =>
          if old.id = l.id then LayerStore.withDerived old l.settled else old
  /-- The next update of a layer without a row fails and changes nothing. -/
  absent : ∀ l, (t.after updates).rows.get? l.id = none →
    attempt update (t.after updates) l =
      (.error (.database s!"Layer {l.id} does not exist"), t.after updates)
  /-- Stored properties, readable or not, bear on no layer but their own. -/
  withStored : ∀ id stored, ((t.after updates).withStored id stored).layers =
    (t.after updates).layers.map fun l =>
      if l.id = id then
        { l with capabilities := (stored.bind LayerCapabilities.ofJson?).getD {} }
      else l
  /-- But if they cannot even be taken up, no layer is listed. -/
  withRefused : ∀ id stored, (t.after updates).rows.get? id ≠ none →
    stored.bind Json.refusal? ≠ none →
      ∃ e, ((t.after updates).withStored id stored).all = .error e

theorem exists_error_of_refused (h : t.rows.get? id = some row) (hrefused : row.refusal? ≠ none) :
    ∃ e, t.all = .error e := by
  cases hall : t.all with
  | error e => exact ⟨e, rfl⟩
  | ok found =>
    have hok : t.all.map Prod.fst = .ok found.1 := by rw [hall]; rfl
    exact absurd ((all_eq_ok_iff.1 hok).1 id row h) hrefused

/-- A table of any rows serves as a store in memory does, whatever updates of layers that it holds
and of numbers without a row it gets. An update gives exactly the properties that were written just
if both scales are stored and read as they are, and the data it writes can be taken up just if
something is read for both. -/
theorem serves_as_store {t : LayerTable} {updates : List Layer}
    (hids : ∀ l ∈ updates, l.id ∈ t.layers.map Layer.id ∨ t.rows.get? l.id = none) :
    t.ServesAsStore updates ∧
      (∀ c : LayerCapabilities, c.settled = c ↔ c.KeepsScales) ∧
      ∀ (row : LayerRow) (l : Layer),
        (row.write l).refusal? = none ↔ l.capabilities.ReadableScales := by
  obtain ⟨hanswers, hshown⟩ := t.isShown_ofList.run hids
  refine ⟨?_, fun c => LayerCapabilities.settled_eq_iff,
    fun row l => LayerRow.refusal?_write_eq_none_iff⟩
  exact {
    answers := hanswers
    all_ok := fun found => by
      rw [all_eq_ok_iff, hshown.all, Except.ok.injEq, eq_comm]
      rfl
    all_error := fun _ => all_eq_error_iff
    rows := get?_run t updates
    mem_layers_iff := fun _ => LayerTable.mem_layers_iff
    ascending := pairwise_layers _
    listed := fun _ => attempt_of_listed
    absent := fun _ => attempt_of_absent
    withStored := layers_withStored _
    withRefused := fun id stored hrow hrefused => by
      obtain ⟨row, hrow⟩ := Option.ne_none_iff_exists'.1 hrow
      have hget := get?_withStored (t.after updates) id stored
      rw [hrow] at hget
      exact exists_error_of_refused hget hrefused }

/-- A table with a row of an unknown type, one whose stored properties make no sense, and one whose
stored properties cannot be taken up. -/
def mixedTable : LayerTable where
  rows := SortedMap.ofList [
    (4, { layerType := "wmslayer", name := "rivers", url := "maps",
          capabilities := some (.record [("min_scale", .number "1e400".toList)]) }),
    (3, { layerType := " WMTSLayer", name := "rails", url := "tiles", capabilities := some .null }),
    (2, { layerType := "vector", name := "pipes", url := "files" }),
    (1, { layerType := "wmslayer", name := "roads", url := "maps", username := some "" })]
  place := fun _ => (1, 415)

/-- An update of the first layer with a bound whose digits are read as another double, one of a
layer without a row, and one of the layer whose stored properties cannot be taken up. -/
def mixedUpdates : List Layer := [
  { id := 1, name := "", url := "", serviceType := .wfs,
    capabilities := { minScale := some 15152.288168283161 } },
  { id := 9, name := "", url := "", serviceType := .wfs },
  { id := 4, name := "", url := "", serviceType := .wfs }]

/-- No layer is listed before the last update. After it, the table and the store that is given the
same layers differ in the bound. -/
theorem serves_as_store_mixed :
    mixedTable.ServesAsStore mixedUpdates ∧
      mixedTable.all = .error (.database ("Query failed: error occurred while decoding column " ++
        "\"capabilities\": number out of range at line 1 column 415")) ∧
      (run update mixedTable mixedUpdates).1 =
        [.ok (), .error (.database "Layer 9 does not exist"), .ok ()] ∧
      ((mixedTable.after mixedUpdates).all.map fun found => found.1.map fun l =>
        (l.id, l.name, l.capabilities.minScale)) =
          .ok [(1, "roads", some 15152.28816828316), (3, "rails", none), (4, "rivers", none)] ∧
      ((run LayerStore.update (.ofList mixedTable.layers) mixedUpdates).2.layers.values.map
        fun l => (l.id, l.name, l.capabilities.minScale)) =
          [(1, "roads", some 15152.288168283161), (3, "rails", none), (4, "rivers", none)] := by
  have hids : ∀ l ∈ mixedUpdates,
      l.id ∈ mixedTable.layers.map Layer.id ∨ (mixedTable.rows.get? l.id).isNone := by
    decide +kernel
  refine ⟨(serves_as_store fun l hl => ?_).1, ?_, ?_, ?_, ?_⟩
  · exact (hids l hl).imp_right Option.isNone_iff_eq_none.1
  · exact Failure.error?_eq_some.1 (by decide +kernel)
  · rfl
  · exact Failure.toOption_eq_some.1 (by decide +kernel)
  · decide +kernel

end LayerTable

end MapServices
