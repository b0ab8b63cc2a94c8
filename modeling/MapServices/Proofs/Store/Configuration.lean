import MapServices.Proofs.Database.Updates

/-!
# The configuration of stored layers

Whatever the users of a store in memory do to it, it holds the layers that it was started with, as
they were configured. Of an update only the derived properties and the time of their derivation are
taken, both together, and the last update of a layer that succeeded counts. An update fails only if
the store was told to reject it or has no such layer, and then it changes nothing.

* `Call` is what users do to a store, and `written` lists the updates that succeeded.
* `Keeps.after`: one call keeps up what the store holds.
* `run_keeps_configuration`: so does any sequence of calls.
-/

namespace MapServices

/-- A table of entries has the last value of each key. -/
theorem SortedMap.get?_ofList {κ ν : Type} [Ord κ] [Std.TransOrd κ] [Std.LawfulEqOrd κ]
    [DecidableEq κ] (entries : List (κ × ν)) (k : κ) :
    (ofList entries).get? k = (entries.findRev? (·.1 = k)).map Prod.snd := by
  rw [List.findRev?_eq_find?_reverse]
  induction entries using List.reverseRecOn with
  | nil => rfl
  | append_singleton entries e ih =>
    rw [ofList, List.foldl_concat, ← ofList, get?_insert, ih, List.reverse_concat, List.find?_cons]
    by_cases hk : e.1 = k
    · simp [hk]
    · simp [hk, Ne.symm hk]

namespace LayerStore

open LayerUpdates (attempt)

variable {s : LayerStore} {l : Layer} {layers updates : List Layer} {id : Int}

/-! ## Calls -/

/-- What the users of a store do to it. -/
inductive Call where
  | update (l : Layer)
  | failUpdatesOf (id : Int)

namespace Call

/-- The store after a call. -/
def after (s : LayerStore) : Call → LayerStore
  | update l => (attempt LayerStore.update s l).2
  | failUpdatesOf id => s.failUpdatesOf id

/-- The layer that a call has written: that of an update that did not fail. -/
def written? (s : LayerStore) : Call → Option Layer
  | update l => (attempt LayerStore.update s l).1.toOption.map fun _ => l
  | failUpdatesOf _ => none

end Call

/-- The store after calls one after the other. -/
def run (s : LayerStore) (calls : List Call) : LayerStore := calls.foldl Call.after s

/-- The layers of the updates that succeeded, in order. -/
def written (s : LayerStore) : List Call → List Layer
  | [] => []
  | c :: calls => (c.written? s).toList ++ written (c.after s) calls

theorem written_concat (s : LayerStore) (calls : List Call) (c : Call) :
    written s (calls ++ [c]) = written s calls ++ (c.written? (run s calls)).toList := by
  induction calls generalizing s with
  | nil => exact List.append_nil _
  | cons first calls ih =>
    rw [List.cons_append, written, written, ih, List.append_assoc]
    rfl

/-- How an update ends. -/
theorem attempt_cases (s : LayerStore) (l : Layer) :
    (l.id ∈ s.failing ∧
        attempt update s l = (.error (.database s!"Update rejected for layer {l.id}"), s)) ∨
      (l.id ∉ s.failing ∧ s.get? l.id = none ∧
        attempt update s l = (.error (.database s!"Layer {l.id} does not exist"), s)) ∨
      (l.id ∉ s.failing ∧ ∃ old, ∃ h : s.get? l.id = some old,
        attempt update s l = (.ok (), s.replace h)) := by
  unfold attempt update
  by_cases hfailing : l.id ∈ s.failing
  · rw [if_pos hfailing]
    exact .inl ⟨hfailing, rfl⟩
  · rw [if_neg hfailing]
    refine .inr ?_
    split
    · rename_i s' hs'
      split at hs'
      · cases hs'
      · rename_i old hold
        cases hs'
        exact .inr ⟨hfailing, old, hold, rfl⟩
    · rename_i e he
      split at he
      · rename_i hnone
        cases he
        exact .inl ⟨hfailing, hnone, rfl⟩
      · cases he

/-! ## What the store holds -/

/-- The last of some layers with the given number. -/
def last? (id : Int) (layers : List Layer) : Option Layer := layers.findRev? (·.id = id)

theorem last?_concat (id : Int) (layers : List Layer) (l : Layer) :
    last? id (layers ++ [l]) = if l.id = id then some l else last? id layers := by
  simp only [last?, List.findRev?_eq_find?_reverse, List.reverse_concat, List.find?_cons]
  by_cases hid : l.id = id <;> simp [hid]

theorem isSome_last?_iff : (last? id layers).isSome ↔ ∃ l ∈ layers, l.id = id := by
  rw [last?, List.findRev?_eq_find?_reverse, List.find?_isSome]
  simp

/-- What is held under a number: the layer that the store was started with, with what the last of
the updates says that was derived. -/
def held? (layers updates : List Layer) (id : Int) : Option Layer :=
  (last? id layers).map fun configured =>
    match last? id updates with
    | none => configured
    | some updated =>
      { configured with capabilities := updated.capabilities, lastUpdated := updated.lastUpdated }

theorem held?_nil (layers : List Layer) (id : Int) : held? layers [] id = last? id layers :=
  Option.map_id'

theorem isSome_held? : (held? layers updates id).isSome = (last? id layers).isSome :=
  Option.isSome_map

theorem held?_concat_of_ne (h : id ≠ l.id) :
    held? layers (updates ++ [l]) id = held? layers updates id := by
  rw [held?, last?_concat, if_neg (Ne.symm h), held?]

/-- A further update takes the place of what was derived before. -/
theorem held?_concat_self (layers updates : List Layer) (l : Layer) :
    held? layers (updates ++ [l]) l.id = (held? layers updates l.id).map (withDerived · l) := by
  rw [held?, last?_concat, if_pos rfl, held?, Option.map_map]
  refine Option.map_congr fun configured _ => ?_
  rw [Function.comp_apply]
  cases last? l.id updates <;> rfl

theorem get?_ofList (layers : List Layer) (id : Int) :
    (ofList layers).get? id = last? id layers := by
  have hget : (ofList layers).get? id =
      ((layers.map fun l => (l.id, l)).findRev? (·.1 = id)).map Prod.snd :=
    SortedMap.get?_ofList _ id
  rw [hget, last?, List.findRev?_eq_find?_reverse, List.findRev?_eq_find?_reverse,
    ← List.map_reverse, List.find?_map, Option.map_map]
  exact Option.map_id'

/-! ## One call -/

/-- What a store is after calls, told from the layers it was started with and the updates that
succeeded. -/
structure Keeps (layers : List Layer) (calls : List Call) (s : LayerStore) : Prop where
  get? : ∀ id, s.get? id = held? layers (written (ofList layers) calls) id
  failing : ∀ id, id ∈ s.failing ↔ .failUpdatesOf id ∈ calls
  updates : s.updates = (written (ofList layers) calls).length
  loadRefused : s.loadRefused = false

theorem keeps_ofList (layers : List Layer) : Keeps layers [] (ofList layers) where
  get? id := by rw [get?_ofList, written, held?_nil]
  failing _ := iff_of_false List.not_mem_nil List.not_mem_nil
  updates := rfl
  loadRefused := rfl

/-- An update that failed leaves no trace. -/
theorem Keeps.failed {calls : List Call} (h : Keeps layers calls (run (ofList layers) calls))
    {e : ServiceError}
    (he : attempt update (run (ofList layers) calls) l = (.error e, run (ofList layers) calls)) :
    Keeps layers (calls ++ [.update l]) ((Call.update l).after (run (ofList layers) calls)) := by
  have hwritten : written (ofList layers) (calls ++ [.update l]) =
      written (ofList layers) calls := by
    rw [written_concat, Call.written?, he]
    exact List.append_nil _
  rw [Call.after, he]
  exact {
    get? := by rw [hwritten]; exact h.get?
    failing := fun id => by simp [h.failing]
    updates := by rw [hwritten]; exact h.updates
    loadRefused := h.loadRefused }

/-- An update that succeeded is the last one of its layer. -/
theorem Keeps.succeeded {calls : List Call} (h : Keeps layers calls (run (ofList layers) calls))
    {old : Layer} (hold : (run (ofList layers) calls).get? l.id = some old)
    (hok : attempt update (run (ofList layers) calls) l =
      (.ok (), (run (ofList layers) calls).replace hold)) :
    Keeps layers (calls ++ [.update l]) ((Call.update l).after (run (ofList layers) calls)) := by
  have hwritten : written (ofList layers) (calls ++ [.update l]) =
      written (ofList layers) calls ++ [l] := by
    rw [written_concat, Call.written?, hok]
    rfl
  rw [Call.after, hok]
  exact {
    get? := fun id => by
      rw [hwritten, get?_replace]
      split
      · rename_i hid
        rw [hid, held?_concat_self, ← h.get?, hold, Option.map_some]
      · rename_i hid
        rw [held?_concat_of_ne hid, h.get?]
    failing := fun id => by
      rw [replace]
      simp [h.failing]
    updates := by
      rw [hwritten, List.length_append, ← h.updates]
      rfl
    loadRefused := h.loadRefused }

theorem Keeps.after {calls : List Call} (h : Keeps layers calls (run (ofList layers) calls))
    (c : Call) : Keeps layers (calls ++ [c]) (c.after (run (ofList layers) calls)) := by
  cases c with
  | update l =>
    obtain ⟨-, he⟩ | ⟨-, -, he⟩ | ⟨-, old, hold, hok⟩ :=
      attempt_cases (run (ofList layers) calls) l
    · exact h.failed he
    · exact h.failed he
    · exact h.succeeded hold hok
  | failUpdatesOf id =>
    have hwritten : written (ofList layers) (calls ++ [.failUpdatesOf id]) =
        written (ofList layers) calls := by
      rw [written_concat, Call.written?]
      exact List.append_nil _
    exact {
      get? := by rw [hwritten]; exact h.get?
      failing := fun id' => by simp [Call.after, failUpdatesOf, h.failing, or_comm]
      updates := by rw [hwritten]; exact h.updates
      loadRefused := h.loadRefused }

theorem keeps_run (layers : List Layer) (calls : List Call) :
    Keeps layers calls (run (ofList layers) calls) := by
  induction calls using List.reverseRecOn with
  | nil => exact keeps_ofList layers
  | append_singleton calls c ih =>
    have hrun : run (ofList layers) (calls ++ [c]) = c.after (run (ofList layers) calls) :=
      List.foldl_concat ..
    rw [hrun]
    exact ih.after c

/-! ## Any calls -/

/-- What the users of a store find after calls, if it was started with the given layers; of several
with one number the last one counts. -/
structure KeepsConfiguration (layers : List Layer) (calls : List Call) (s : LayerStore) : Prop where
  ids : ∀ id, (s.get? id).isSome ↔ ∃ l ∈ layers, l.id = id
  /-- All that was configured is as at the start, and what is derived comes from one update. -/
  layer : ∀ id l, s.get? id = some l → ∃ configured ∈ last? id layers, l =
    match last? id (written (ofList layers) calls) with
    | none => configured
    | some updated =>
      { configured with capabilities := updated.capabilities, lastUpdated := updated.lastUpdated }
  /-- An update that is to be rejected fails and changes nothing. -/
  rejected : ∀ l, .failUpdatesOf l.id ∈ calls →
    attempt update s l = (.error (.database s!"Update rejected for layer {l.id}"), s)
  /-- So does an update of a layer that the store was not started with. -/
  unknown : ∀ l, .failUpdatesOf l.id ∉ calls → (∀ l' ∈ layers, l'.id ≠ l.id) →
    attempt update s l = (.error (.database s!"Layer {l.id} does not exist"), s)
  /-- No other update fails. -/
  accepted : ∀ l, .failUpdatesOf l.id ∉ calls → (∃ l' ∈ layers, l'.id = l.id) →
    (attempt update s l).1 = .ok ()
  updates : s.updates = (written (ofList layers) calls).length
  /-- The layers are listed in the order of their numbers. -/
  all : ∃ listed, s.all = .ok listed ∧ (listed.Pairwise fun l l' => l.id < l'.id) ∧
    ∀ l, l ∈ listed ↔ s.get? l.id = some l

theorem pairwise_values (s : LayerStore) : s.layers.values.Pairwise fun l l' => l.id < l'.id := by
  refine List.pairwise_map.2 (s.layers.ascending.imp_of_mem fun {e e'} he he' hlt => ?_)
  rw [s.numbered e he, s.numbered e' he']
  exact Int.compare_eq_lt.1 hlt

theorem mem_values_iff : l ∈ s.layers.values ↔ s.get? l.id = some l := by
  refine ⟨RefreshJob.get?_of_mem_values, fun h => ?_⟩
  exact SortedMap.mem_values_iff.2 ⟨l.id, h⟩

/-- Whatever is done to a store, the layers that it was started with keep their configuration. -/
theorem run_keeps_configuration (layers : List Layer) (calls : List Call) :
    KeepsConfiguration layers calls (run (ofList layers) calls) := by
  have h := keeps_run layers calls
  generalize run (ofList layers) calls = s at h
  have hknown : ∀ id, (s.get? id).isSome ↔ ∃ l ∈ layers, l.id = id := by
    intro id
    rw [h.get?, isSome_held?, isSome_last?_iff]
  exact {
    ids := hknown
    layer := fun id l hl => by
      rw [h.get?] at hl
      obtain ⟨configured, hconfigured, hl⟩ := Option.map_eq_some_iff.1 hl
      exact ⟨configured, hconfigured, hl.symm⟩
    rejected := fun l hl => by
      rw [← h.failing] at hl
      obtain ⟨-, he⟩ | ⟨hfailing, -⟩ | ⟨hfailing, -⟩ := attempt_cases s l
      · exact he
      · exact absurd hl hfailing
      · exact absurd hl hfailing
    unknown := fun l hl hlayers => by
      rw [← h.failing] at hl
      obtain ⟨hfailing, -⟩ | ⟨-, -, he⟩ | ⟨-, old, hold, -⟩ := attempt_cases s l
      · exact absurd hfailing hl
      · exact he
      · obtain ⟨l', hl', hid⟩ := (hknown l.id).1 (Option.isSome_iff_exists.2 ⟨old, hold⟩)
        exact absurd hid (hlayers l' hl')
    accepted := fun l hl hlayers => by
      rw [← h.failing] at hl
      obtain ⟨hfailing, -⟩ | ⟨-, hnone, -⟩ | ⟨-, old, hold, hok⟩ := attempt_cases s l
      · exact absurd hfailing hl
      · rw [← hknown, hnone] at hlayers
        cases hlayers
      · rw [hok]
    updates := h.updates
    all := ⟨s.layers.values, by rw [LayerStore.all, h.loadRefused]; rfl, pairwise_values s,
      fun _ => mem_values_iff⟩ }

end LayerStore

end MapServices
