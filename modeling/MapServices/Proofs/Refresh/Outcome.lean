import MapServices.Proofs.Failure
import MapServices.Proofs.Refresh.Group
import MapServices.Refresh.Job

/-!
# What a refresh leaves behind

Each layer is settled by its own document alone: by the answer to the request of its key, by what
can be read in it, and by whether the store takes the update. Nothing that goes wrong with another
group or another layer shows in it. `RefreshJob.refreshedLayer` says what becomes of a layer without
following the refresh; `refreshGroups_spec` follows the refresh group by group and layer by layer,
with `Overwritten` as the invariant of the stored layers.

* `refresh_outcome`: the stored layers and the summary after a refresh.
-/

namespace MapServices

/-! ## What a document does to a layer -/

namespace ServiceCapabilities

/-- The properties that the document gives a layer, if it gives any. -/
def derived? (c : ServiceCapabilities) (l : Layer) : Option LayerCapabilities :=
  match (c.patch? l).1 with
  | .ok (some patch) => some patch.capabilities
  | _ => none

/-- Whether the document gives properties to a layer and the store takes them. -/
def rewrites (c : ServiceCapabilities) (failing : List Int) (l : Layer) : Bool :=
  !decide (l.id ∈ failing) && (c.derived? l).isSome

/-- What becomes of a layer when the document, read at `readAt`, is applied to it. -/
def refreshedLayer (c : ServiceCapabilities) (failing : List Int) (readAt : Instant) (l : Layer) :
    Layer :=
  if l.id ∈ failing then l
  else
    match c.derived? l with
    | some derived => { l with capabilities := derived, lastUpdated := some readAt }
    | none => l

/-- Whether the document is of a kind that describes layers. -/
def describesLayers : ServiceCapabilities → Bool
  | features => false
  | _ => true

theorem describesLayers_of_read {t : ServiceType} {data : String} {c : ServiceCapabilities}
    (ht : t.refreshesInGroups) (h : read t data = .ok c) : c.describesLayers := by
  cases t with
  | wfs => cases ht
  | wms =>
    simp only [read] at h
    cases hr : WmsCapabilities.read data <;> rw [hr] at h <;> cases h
    rfl
  | wmts =>
    simp only [read] at h
    cases hr : WmtsCapabilities.read data <;> rw [hr] at h <;> cases h
    rfl

/-- A patch is always for the layer for which it was made. -/
theorem layerId_of_patch? {c : ServiceCapabilities} {l : Layer} {patch : LayerPatch}
    (h : (c.patch? l).1 = .ok (some patch)) : patch.layerId = l.id := by
  cases c with
  | features => cases h
  | maps c =>
    simp only [patch?, WmsCapabilities.patch] at h
    cases hfind : c.find? l.name with
    | none => rw [hfind] at h; cases h
    | some found =>
      rw [hfind] at h
      cases hcheck : found.check with
      | error e => simp [hcheck, bind, Except.bind, Functor.map, Except.map] at h
      | ok _ =>
        simp only [hcheck, bind, Except.bind, Functor.map, Except.map, pure, Except.pure] at h
        cases h
        rfl
  | tiles c =>
    simp only [patch?, WmtsCapabilities.patch] at h
    cases hfind : c.find? l.name with
    | none => rw [hfind] at h; cases h
    | some found =>
      rw [hfind] at h
      cases hlinks :
          (WmtsCapabilities.addLinks c found (c.ownCapabilities found) found.links).1 with
      | error e => simp [hlinks, Functor.map, Except.map] at h
      | ok capabilities =>
        simp only [hlinks, Functor.map, Except.map] at h
        cases h
        rfl

/-- A document that describes layers changes the derived fields of a layer, or refuses it. -/
theorem refreshed_eq {c : ServiceCapabilities} (hc : c.describesLayers) (l : Layer)
    (now : Instant) :
    match c.derived? l with
    | some derived =>
      (c.refreshed l now).1 = .ok { l with capabilities := derived, lastUpdated := some now }
    | none => ∃ e, (c.refreshed l now).1 = .error e := by
  unfold derived? refreshed
  rcases hp : c.patch? l with ⟨e | _ | patch, notices⟩
  · exact ⟨_, rfl⟩
  · -- only documents that do not describe layers give no patch and no error
    exfalso
    cases c with
    | features => cases hc
    | maps c => cases hm : c.patch l <;> simp [patch?, hm, Functor.map, Except.map] at hp
    | tiles c => cases hm : (c.patch l).1 <;> simp [patch?, hm, Functor.map, Except.map] at hp
  · have hid : patch.layerId = l.id := layerId_of_patch? (c := c) (by rw [hp])
    simp only [Layer.withPatch, hid, if_true]

end ServiceCapabilities

/-! ## Overwriting stored layers -/

/-- The layers of the listed numbers are replaced by what `f` makes of them, and nothing else of the
layers changes. -/
structure Overwritten (f : Layer → Layer) (ids : List Int) (before after : World) : Prop where
  get? : ∀ id, after.layers.get? id =
    if id ∈ ids then (before.layers.get? id).map f else before.layers.get? id
  failing : after.layers.failing = before.layers.failing
  now : after.now = before.now

namespace Overwritten

variable {f g : Layer → Layer} {ids ids' : List Int} {w w' w'' : World}

/-- Steps that do not touch layers may come before and after. -/
theorem of_layers_eq {v v' : World} (h : Overwritten f ids w w') (hv : v.layers = w.layers)
    (hvnow : v.now = w.now) (hv' : v'.layers = w'.layers) (hvnow' : v'.now = w'.now) :
    Overwritten f ids v v' where
  get? id := by rw [hv, hv']; exact h.get? id
  failing := by rw [hv, hv']; exact h.failing
  now := by rw [hvnow, hvnow']; exact h.now

/-- Nothing is written, and that is what `f` makes of the layers. -/
theorem of_fixed (hlayers : w'.layers = w.layers) (hnow : w'.now = w.now)
    (hf : ∀ id ∈ ids, (w.layers.get? id).map f = w.layers.get? id) : Overwritten f ids w w' where
  get? id := by
    rw [hlayers]
    split
    · rename_i hid
      exact (hf id hid).symm
    · rfl
  failing := by rw [hlayers]
  now := hnow

theorem nil (hlayers : w'.layers = w.layers) (hnow : w'.now = w.now) : Overwritten f [] w w' :=
  of_fixed hlayers hnow (by simp)

/-- Layers whose numbers are not listed are found as before. -/
theorem get?_of_not_mem (h : Overwritten f ids w w') {id : Int} (hid : id ∉ ids) :
    w'.layers.get? id = w.layers.get? id := by
  rw [h.get?, if_neg hid]

theorem append (h : Overwritten f ids w w') (h' : Overwritten f ids' w' w'')
    (hdisjoint : ∀ id ∈ ids, id ∉ ids') : Overwritten f (ids ++ ids') w w'' where
  get? id := by
    rw [h'.get?, h.get?]
    by_cases hid : id ∈ ids
    · simp [hid, hdisjoint id hid]
    · simp [hid]
  failing := h'.failing.trans h.failing
  now := h'.now.trans h.now

/-- Only what becomes of the listed layers matters. -/
theorem congr (h : Overwritten f ids w w')
    (hfg : ∀ id ∈ ids, (w.layers.get? id).map f = (w.layers.get? id).map g) :
    Overwritten g ids w w' where
  get? id := by
    rw [h.get?]
    split
    · rename_i hid
      exact hfg id hid
    · rfl
  failing := h.failing
  now := h.now

end Overwritten

namespace RefreshJob

/-! ## One layer after the other -/

theorem update_of_failing {s : LayerStore} {l : Layer} (h : l.id ∈ s.failing) :
    ∃ e, s.update l = .error e := by
  unfold LayerStore.update
  rw [if_pos h]
  exact ⟨_, rfl⟩

theorem update_of_get? {s : LayerStore} {l old : Layer} (hfailing : l.id ∉ s.failing)
    (h : s.get? l.id = some old) : ∃ s', s.update l = .ok s' ∧ s'.failing = s.failing := by
  unfold LayerStore.update
  rw [if_neg hfailing]
  split
  · rename_i hnone
    rw [hnone] at h
    cases h
  · exact ⟨_, rfl, rfl⟩

/-- What `updateLayer` does to a layer that the store has as it was listed. -/
theorem updateLayer_spec {c : ServiceCapabilities} (hc : c.describesLayers) (readAt : Instant)
    {l : Layer} (s : RefreshSummary) {w : World} (hl : w.layers.get? l.id = some l) :
    Overwritten (c.refreshedLayer w.layers.failing readAt) [l.id] w
        (updateLayer c readAt l s w).2 ∧
      (updateLayer c readAt l s w).1 =
        if c.rewrites w.layers.failing l then s.updateLayer else s.failLayer := by
  have href := c.refreshed_eq hc l readAt
  have hfixed : c.refreshedLayer w.layers.failing readAt l = l → ∀ id ∈ [l.id],
      (w.layers.get? id).map (c.refreshedLayer w.layers.failing readAt) = w.layers.get? id := by
    intro hfix id hid
    obtain rfl := List.mem_singleton.1 hid
    rw [hl, Option.map_some, hfix]
  rcases hr : c.refreshed l readAt with ⟨result, notices⟩
  simp only [updateLayer, writeLayer, hr] at href ⊢
  cases hd : c.derived? l with
  | none =>
    rw [hd] at href
    obtain ⟨e, rfl⟩ := href
    have hsame : c.refreshedLayer w.layers.failing readAt l = l := by
      simp [ServiceCapabilities.refreshedLayer, hd]
    refine ⟨.of_fixed rfl rfl (hfixed hsame), ?_⟩
    simp [ServiceCapabilities.rewrites, hd]
  | some derived =>
    rw [hd] at href
    subst href
    by_cases hfailing : l.id ∈ w.layers.failing
    · have hsame : c.refreshedLayer w.layers.failing readAt l = l := by
        simp [ServiceCapabilities.refreshedLayer, hfailing]
      obtain ⟨e, he⟩ := update_of_failing (s := w.layers)
        (l := { l with capabilities := derived, lastUpdated := some readAt }) hfailing
      simp only [World.update, World.report, he]
      refine ⟨.of_fixed rfl rfl (hfixed hsame), ?_⟩
      simp [ServiceCapabilities.rewrites, hfailing]
    · obtain ⟨store, hstore, hstorefailing⟩ := update_of_get? (s := w.layers)
        (l := { l with capabilities := derived, lastUpdated := some readAt }) hfailing hl
      simp only [World.update, World.report, hstore]
      refine ⟨⟨fun id => ?_, hstorefailing, rfl⟩, ?_⟩
      · rw [LayerStore.get?_update hstore]
        simp only [List.mem_singleton]
        split
        · rename_i hid
          subst hid
          rw [hl]
          simp [ServiceCapabilities.refreshedLayer, hfailing, hd, LayerStore.withDerived]
        · rfl
      · simp [ServiceCapabilities.rewrites, hfailing, hd]

/-- The summary when further layers have been updated or have failed. -/
def countLayers (s : RefreshSummary) (layers : List Layer) (rewrites left : Layer → Bool) :
    RefreshSummary :=
  { s with
    layersUpdated := s.layersUpdated + layers.countP rewrites
    layersFailed := s.layersFailed + layers.countP left }

/-- Layers with different numbers do not come into each other's way. -/
theorem updateLayers_spec {c : ServiceCapabilities} (hc : c.describesLayers) (readAt : Instant)
    (layers : List Layer) (s : RefreshSummary) (w : World) (hnodup : (layers.map Layer.id).Nodup)
    (hstored : ∀ l ∈ layers, w.layers.get? l.id = some l) :
    Overwritten (c.refreshedLayer w.layers.failing readAt) (layers.map Layer.id) w
        (updateLayers c readAt layers s w).2 ∧
      (updateLayers c readAt layers s w).1 =
        countLayers s layers (c.rewrites w.layers.failing)
          (fun l => !c.rewrites w.layers.failing l) := by
  induction layers generalizing s w with
  | nil => exact ⟨.nil rfl rfl, rfl⟩
  | cons l rest ih =>
    obtain ⟨hnotin, hnodup⟩ := List.nodup_cons.1 hnodup
    obtain ⟨hfirst, hsummary⟩ := updateLayer_spec hc readAt s (hstored l List.mem_cons_self)
    have hrest := ih (updateLayer c readAt l s w).1 (updateLayer c readAt l s w).2 hnodup (by
      intro l' hl'
      rw [hfirst.get?_of_not_mem]
      · exact hstored l' (List.mem_cons_of_mem _ hl')
      · intro hid
        rw [List.mem_singleton] at hid
        exact hnotin (hid ▸ List.mem_map_of_mem hl'))
    rw [hfirst.failing] at hrest
    rw [updateLayers]
    refine ⟨hfirst.append hrest.1 (by simpa using hnotin), ?_⟩
    rw [hrest.2, hsummary]
    cases hw : c.rewrites w.layers.failing l <;>
      simp [countLayers, hw, RefreshSummary.updateLayer, RefreshSummary.failLayer] <;> omega

/-! ## One group after the other -/

/-- The request for the document of a key when the layers of a list are refreshed: it carries the
credentials of the first layer that belongs to the key. -/
def requestFor (layers : List Layer) (k : ServiceKey) : FetchRequest :=
  .ofKey k ((layers.find? (Layer.belongsTo k)).bind Layer.credentials)

/-- What is read in the document of a key, if it is fetched and can be read. -/
def documentFor (job : RefreshJob) (layers : List Layer) (k : ServiceKey) :
    Except ServiceError ServiceCapabilities :=
  match (job.source (requestFor layers k)).result with
  | .error e => .error e
  | .ok fetched =>
    (ServiceCapabilities.read k.serviceType fetched.data).mapError DocumentError.toServiceError

/-- Whether a refresh of the layers of a list writes a layer of it. -/
def rewrites (job : RefreshJob) (layers : List Layer) (failing : List Int) (l : Layer) : Bool :=
  l.serviceType.refreshesInGroups &&
    match job.documentFor layers (.ofLayer l) with
    | .ok c => c.rewrites failing l
    | .error _ => false

/-- Whether a refresh of the layers of a list counts a layer of it as failed: its document is there,
but the layer is not written. -/
def leaves (job : RefreshJob) (layers : List Layer) (failing : List Int) (l : Layer) : Bool :=
  l.serviceType.refreshesInGroups && (job.documentFor layers (.ofLayer l)).isOk &&
    !job.rewrites layers failing l

/-- What a refresh of the layers of a list makes of a layer of it. -/
def refreshedLayer (job : RefreshJob) (layers : List Layer) (failing : List Int) (now : Instant)
    (l : Layer) : Layer :=
  if l.serviceType.refreshesInGroups then
    match job.documentFor layers (.ofLayer l) with
    | .ok c => c.refreshedLayer failing now l
    | .error _ => l
  else l

variable (job : RefreshJob) {layers : List Layer} {g : LayerGroup}

theorem request_of_mem_values (hg : g ∈ (LayerGroups.ofLayers layers).values) :
    g.request = requestFor layers g.key := by
  rw [LayerGroup.request, LayerGroups.credentials_of_mem_values hg, requestFor]

/-- A group without a document is counted, and its layers are left alone. -/
theorem refreshGroup_of_error (hg : g ∈ (LayerGroups.ofLayers layers).values) {e : ServiceError}
    (h : job.documentFor layers g.key = .error e) (s : RefreshSummary) (w : World) :
    (job.refreshGroup g s w).1 = s.failGroup ∧ (job.refreshGroup g s w).2.layers = w.layers ∧
      (job.refreshGroup g s w).2.now = w.now := by
  rw [documentFor, ← request_of_mem_values hg] at h
  simp only [refreshGroup, afterRequest, World.receive, World.send]
  cases hresult : (job.source g.request).result with
  | error e => exact ⟨rfl, rfl, rfl⟩
  | ok fetched =>
    cases hread : ServiceCapabilities.read g.key.serviceType fetched.data with
    | ok c => simp [hresult, hread, Failure.mapError_ok] at h
    | error e =>
      simp only [afterAnswer, afterDocument, hread]
      split
      · rw [saveDocument_eq]
        exact ⟨rfl, rfl, rfl⟩
      · exact ⟨rfl, rfl, rfl⟩

/-- A group with a document goes on to its layers, which are stored as before. -/
theorem refreshGroup_of_ok (hg : g ∈ (LayerGroups.ofLayers layers).values)
    {c : ServiceCapabilities} (h : job.documentFor layers g.key = .ok c) (s : RefreshSummary)
    (w : World) : ∃ data v, job.refreshGroup g s w = updateLayers c w.now g.layers s v ∧
      ServiceCapabilities.read g.key.serviceType data = .ok c ∧ v.layers = w.layers ∧
      v.now = w.now := by
  rw [documentFor, ← request_of_mem_values hg] at h
  simp only [refreshGroup, afterRequest, World.receive, World.send]
  cases hresult : (job.source g.request).result with
  | error e => simp [hresult] at h
  | ok fetched =>
    cases hread : ServiceCapabilities.read g.key.serviceType fetched.data with
    | error e => simp [hresult, hread, Failure.mapError_error] at h
    | ok c' =>
      simp only [hresult, hread, Failure.mapError_ok, Except.ok.injEq] at h
      subst h
      simp only [afterAnswer, afterDocument, hread]
      split
      · rw [saveDocument_eq]
        exact ⟨fetched.data, _, rfl, hread, rfl, rfl⟩
      · exact ⟨fetched.data, _, rfl, hread, rfl, rfl⟩

/-- A refresh of a group writes the layers of the group as their document says. -/
theorem refreshGroup_spec (hg : g ∈ (LayerGroups.ofLayers layers).values) (s : RefreshSummary)
    (w : World) (hnodup : (g.layers.map Layer.id).Nodup)
    (hstored : ∀ l ∈ g.layers, w.layers.get? l.id = some l) :
    Overwritten (job.refreshedLayer layers w.layers.failing w.now) (g.layers.map Layer.id) w
        (job.refreshGroup g s w).2 ∧
      (job.refreshGroup g s w).1 =
        countLayers (if (job.documentFor layers g.key).isOk then s else s.failGroup) g.layers
          (job.rewrites layers w.layers.failing) (job.leaves layers w.layers.failing) := by
  have hmember : ∀ l ∈ g.layers,
      l.serviceType.refreshesInGroups ∧ ServiceKey.ofLayer l = g.key := by
    intro l hl
    rw [LayerGroups.layers_of_mem_values hg] at hl
    exact Layer.belongsTo_iff.1 (List.mem_filter.1 hl).2
  cases hdocument : job.documentFor layers g.key with
  | error e =>
    obtain ⟨hsummary, hlayers, hnow⟩ := refreshGroup_of_error job hg hdocument s w
    refine ⟨.of_fixed hlayers hnow ?_, ?_⟩
    · intro id hid
      obtain ⟨l, hl, rfl⟩ := List.mem_map.1 hid
      obtain ⟨htype, hkey⟩ := hmember l hl
      simp [hstored l hl, refreshedLayer, htype, hkey, hdocument]
    · have hrewrites : g.layers.countP (job.rewrites layers w.layers.failing) = 0 := by
        rw [List.countP_eq_zero]
        intro l hl
        simp [rewrites, hmember l hl, hdocument]
      have hleaves : g.layers.countP (job.leaves layers w.layers.failing) = 0 := by
        rw [List.countP_eq_zero]
        intro l hl
        simp [leaves, hmember l hl, hdocument, Except.isOk, Except.toBool]
      rw [hsummary, countLayers, hrewrites, hleaves]
      simp [Except.isOk, Except.toBool]
  | ok c =>
    obtain ⟨data, v, hgroup, hread, hlayers, hnow⟩ := refreshGroup_of_ok job hg hdocument s w
    have htype : g.key.serviceType.refreshesInGroups := by
      obtain ⟨htype, hkey⟩ := hmember g.first (by simp [LayerGroup.layers])
      rw [← hkey]
      exact htype
    obtain ⟨hwritten, hsummary⟩ := updateLayers_spec
      (ServiceCapabilities.describesLayers_of_read htype hread) w.now g.layers s v hnodup
      (by rw [hlayers]; exact hstored)
    rw [hlayers] at hwritten hsummary
    rw [hgroup]
    refine ⟨(hwritten.of_layers_eq hlayers.symm hnow.symm rfl rfl).congr ?_, ?_⟩
    · intro id hid
      obtain ⟨l, hl, rfl⟩ := List.mem_map.1 hid
      obtain ⟨htype, hkey⟩ := hmember l hl
      simp [hstored l hl, refreshedLayer, htype, hkey, hdocument]
    · rw [hsummary, countLayers, countLayers]
      have hrewrites : ∀ l ∈ g.layers, c.rewrites w.layers.failing l =
          job.rewrites layers w.layers.failing l := by
        intro l hl
        simp [rewrites, hmember l hl, hdocument]
      have hleaves : ∀ l ∈ g.layers, (!c.rewrites w.layers.failing l) =
          job.leaves layers w.layers.failing l := by
        intro l hl
        simp [leaves, rewrites, hmember l hl, hdocument, Except.isOk, Except.toBool]
      rw [List.countP_congr fun l hl => by rw [hrewrites l hl],
        List.countP_congr (p := fun l => !c.rewrites _ l) fun l hl => by rw [hleaves l hl]]
      rfl

/-- Groups without common layers do not come into each other's way. -/
theorem refreshGroups_spec (groups : List LayerGroup)
    (hgroups : ∀ g ∈ groups, g ∈ (LayerGroups.ofLayers layers).values) (s : RefreshSummary)
    (w : World) (hnodup : ((groups.flatMap LayerGroup.layers).map Layer.id).Nodup)
    (hstored : ∀ l ∈ groups.flatMap LayerGroup.layers, w.layers.get? l.id = some l) :
    Overwritten (job.refreshedLayer layers w.layers.failing w.now)
        ((groups.flatMap LayerGroup.layers).map Layer.id) w (job.refreshGroups groups s w).2 ∧
      (job.refreshGroups groups s w).1 =
        countLayers
          { s with
            groupsFailed := s.groupsFailed +
              groups.countP fun g => !(job.documentFor layers g.key).isOk }
          (groups.flatMap LayerGroup.layers) (job.rewrites layers w.layers.failing)
          (job.leaves layers w.layers.failing) := by
  induction groups generalizing s w with
  | nil => exact ⟨.nil rfl rfl, rfl⟩
  | cons g rest ih =>
    rw [List.flatMap_cons, List.map_append, List.nodup_append] at hnodup
    obtain ⟨hnodupg, hnoduprest, hdisjoint⟩ := hnodup
    obtain ⟨hfirst, hsummary⟩ := refreshGroup_spec job (hgroups g List.mem_cons_self) s w hnodupg
      (fun l hl => hstored l (by simp [hl]))
    have hrest := ih (fun g' hg' => hgroups g' (List.mem_cons_of_mem _ hg'))
      (job.refreshGroup g s w).1 (job.refreshGroup g s w).2 hnoduprest (by
        intro l hl
        rw [hfirst.get?_of_not_mem]
        · exact hstored l (by rw [List.flatMap_cons]; exact List.mem_append_right _ hl)
        · intro hid
          exact hdisjoint _ hid _ (List.mem_map_of_mem hl) rfl)
    rw [hfirst.failing, hfirst.now] at hrest
    rw [refreshGroups, List.flatMap_cons, List.map_append]
    refine ⟨hfirst.append hrest.1 fun id hid hid' => hdisjoint id hid id hid' rfl, ?_⟩
    rw [hrest.2, hsummary]
    cases hdocument : (job.documentFor layers g.key).isOk <;>
      simp [countLayers, hdocument, RefreshSummary.failGroup] <;> omega

/-! ## The whole refresh -/

theorem values_eq_of_all {s : LayerStore} {layers : List Layer} (h : s.all = .ok layers) :
    s.layers.values = layers := by
  unfold LayerStore.all at h
  split at h
  · cases h
  · exact Except.ok.inj h

theorem map_id_values (s : LayerStore) : s.layers.values.map Layer.id = s.layers.keys := by
  rw [SortedMap.values, SortedMap.keys, List.map_map]
  exact List.map_congr_left fun e he => s.numbered e he

theorem get?_of_mem_values {s : LayerStore} {l : Layer} (h : l ∈ s.layers.values) :
    s.get? l.id = some l := by
  obtain ⟨id, hid⟩ := SortedMap.mem_values_iff.1 h
  rw [LayerStore.id_of_get? hid]
  exact hid

/-- A refresh that was not skipped and could list the layers goes through the groups. -/
theorem run_eq_refreshGroups {w : World} (hrun : (job.run w).1.skipped = false)
    (hload : w.layers.all = .ok layers) :
    job.run w = job.refreshGroups (LayerGroups.ofLayers layers).values
      { groups := (LayerGroups.ofLayers layers).size }
      ({ w with refreshing := true }.report (LayerGroups.ofLayers layers).notices) := by
  have hfree : w.refreshing = false := by
    cases h : w.refreshing with
    | false => rfl
    | true => simp [run, h] at hrun
  simp [run, hfree, afterStart, hload]

theorem nodup_ids {s : LayerStore} (hload : s.all = .ok layers) :
    (((LayerGroups.ofLayers layers).values.flatMap LayerGroup.layers).map Layer.id).Nodup := by
  rw [((LayerGroups.perm_flatMap_layers layers).map Layer.id).nodup_iff]
  apply List.Nodup.sublist (List.filter_sublist.map _)
  rw [← values_eq_of_all hload, map_id_values]
  exact SortedMap.nodup_keys _

/-- A layer that stands in no group is not refreshed in groups. -/
theorem refreshedLayer_of_not_mem {s : LayerStore} (hload : s.all = .ok layers) {l : Layer}
    (hl : s.get? l.id = some l)
    (hid : l.id ∉ ((LayerGroups.ofLayers layers).values.flatMap LayerGroup.layers).map Layer.id)
    (failing : List Int) (now : Instant) : job.refreshedLayer layers failing now l = l := by
  have htype : ¬ l.serviceType.refreshesInGroups := by
    intro htype
    refine hid (List.mem_map_of_mem ((LayerGroups.perm_flatMap_layers layers).mem_iff.2 ?_))
    refine List.mem_filter.2 ⟨?_, htype⟩
    rw [← values_eq_of_all hload]
    exact SortedMap.mem_values_iff.2 ⟨l.id, hl⟩
  simp [refreshedLayer, htype]

/-- After a refresh that was not skipped and could list the layers, the store has the same layers,
each of them as its own document and the store settle it, and the summary counts the keys, the keys
without a document, the layers that were written and the other layers with a document. -/
theorem refresh_outcome {w : World} (hrun : (job.run w).1.skipped = false)
    (hload : w.layers.all = .ok layers) :
    (job.run w).2.layers.layers =
        w.layers.layers.mapValues (job.refreshedLayer layers w.layers.failing w.now) ∧
      (job.run w).1 = {
        groups := (LayerGroups.keysOf layers).length
        groupsFailed :=
          (LayerGroups.keysOf layers).countP fun k => !(job.documentFor layers k).isOk
        layersUpdated := layers.countP (job.rewrites layers w.layers.failing)
        layersFailed := layers.countP (job.leaves layers w.layers.failing)
        skipped := false } := by
  have hstored : ∀ l ∈ (LayerGroups.ofLayers layers).values.flatMap LayerGroup.layers,
      w.layers.get? l.id = some l := by
    intro l hl
    apply get?_of_mem_values
    rw [values_eq_of_all hload]
    exact (List.mem_filter.1 ((LayerGroups.perm_flatMap_layers layers).mem_iff.1 hl)).1
  obtain ⟨hwritten, hsummary⟩ := refreshGroups_spec job (LayerGroups.ofLayers layers).values
    (fun _ hg => hg) { groups := (LayerGroups.ofLayers layers).size }
    ({ w with refreshing := true }.report (LayerGroups.ofLayers layers).notices)
    (nodup_ids hload) hstored
  rw [run_eq_refreshGroups job hrun hload, hsummary]
  refine ⟨SortedMap.ext_get? fun id => ?_, ?_⟩
  · have hget := hwritten.get? id
    rw [SortedMap.get?_mapValues]
    apply hget.trans
    split
    · rfl
    · rename_i hid
      show w.layers.get? id = (w.layers.get? id).map _
      cases hl : w.layers.get? id with
      | none => rfl
      | some l =>
        obtain rfl := LayerStore.id_of_get? hl
        exact congrArg some (refreshedLayer_of_not_mem job hload hl hid _ _).symm
  · have hrewrites : ∀ l, job.rewrites layers w.layers.failing l →
        l.serviceType.refreshesInGroups := by
      intro l hl
      simp only [rewrites, Bool.and_eq_true] at hl
      exact hl.1
    have hleaves : ∀ l, job.leaves layers w.layers.failing l →
        l.serviceType.refreshesInGroups := by
      intro l hl
      simp only [leaves, Bool.and_eq_true] at hl
      exact hl.1.1
    simp only [countLayers, LayerGroups.size_ofLayers, World.report, Nat.zero_add,
      LayerGroups.countP_values layers fun k => !(job.documentFor layers k).isOk,
      LayerGroups.countP_flatMap_layers layers hrewrites,
      LayerGroups.countP_flatMap_layers layers hleaves]

/-- Four layers of one map service, one of a service that does not answer, and one of a feature
service. -/
def mixedLayers : List Layer := [
  { id := 1, name := "roads", url := "maps", serviceType := .wms },
  { id := 2, name := "rails", url := "maps?", serviceType := .wms },
  { id := 3, name := "roads", url := " maps&", serviceType := .wms },
  { id := 4, name := "roads", url := "tiles", serviceType := .wmts },
  { id := 5, name := "roads", url := "maps", serviceType := .wfs }]

def mixedWorld : World :=
  { layers := (LayerStore.ofList mixedLayers).failUpdatesOf 3 }

def mixedJob : RefreshJob where
  source request :=
    if request.url = "maps" then
      { result := .ok {
          url := request.address
          encoding := "UTF-8"
          data := "<WMS_Capabilities><Capability><Layer><Name>roads</Name></Layer></Capability>" ++
            "</WMS_Capabilities>" } }
    else { result := .error (.network "Connection refused") }

/-- The service of tiles does not answer, one layer is unknown to its service and one cannot be
written. The layer of a feature service counts nowhere. -/
theorem refresh_outcome_mixed :
    (mixedJob.run mixedWorld).1.skipped = false ∧ mixedWorld.layers.all = .ok mixedLayers ∧
      (mixedJob.run mixedWorld).2.layers.layers =
        mixedWorld.layers.layers.mapValues (mixedJob.refreshedLayer mixedLayers [3] ⟨0, 0⟩) ∧
      (mixedJob.run mixedWorld).1 =
        { groups := 2, groupsFailed := 1, layersUpdated := 1, layersFailed := 2 } := by
  have hrun : (mixedJob.run mixedWorld).1.skipped = false := by decide +kernel
  have hload : mixedWorld.layers.all = .ok mixedLayers := rfl
  obtain ⟨hlayers, hsummary⟩ := refresh_outcome mixedJob hrun hload
  exact ⟨hrun, hload, hlayers, hsummary.trans (by decide +kernel)⟩

end RefreshJob

end MapServices
