import MapServices.Proofs.Key
import MapServices.Proofs.Refresh.Outcome
import MapServices.Proofs.Store.Documents
import MapServices.Refresh.Single

/-!
# A layer is refreshed as a whole or not at all

Refreshing one layer goes through four steps: its document is fetched, read, turned into new
properties of the layer, and put into the store. The layer and the store change only after the third
step, and the last one cannot undo what was done. So there are two ends only: the layer has its new
properties and the store was given the document, or neither has changed.

* `Succeeds` and `Fails` say how far the steps get that can fail, and `not_fails` that they exclude
  each other.
* `run_of_succeeds`, `run_of_fails`: the outcome and all that changed in the world, in both cases.
* `run_all_or_nothing`: each refresh ends in one of the two ways.
-/

namespace MapServices

/-- The key under which the document of a layer is stored. -/
def Layer.documentKey (l : Layer) : ServiceKey :=
  .ofParts (ServiceKey.ofLayer l).url l.serviceType (ServiceKey.ofLayer l).version

theorem Layer.documentKey_eq_iff (l : Layer) :
    l.documentKey = .ofLayer l ↔ (ServiceKey.ofLayer l).IsStable :=
  ServiceKey.ofParts_eq_iff (ServiceKey.normalizeVersion_ofParts ..)

theorem World.key_draft (w : World) (l : Layer) (data : String) :
    (w.draft (.ofLayer l) data).key = l.documentKey := by
  have hversion := ServiceKey.normalizeVersion_ofParts l.url l.serviceType l.version
  rw [draft, CapabilitiesDocument.ofKey, CapabilitiesDocument.key, Layer.documentKey,
    ServiceKey.ofLayer, hversion]
  rfl

theorem World.fetch_eq (w : World) (source : Source) (request : FetchRequest) :
    w.fetch source request =
      ((source request).result, (w.send request).report (source request).notices) :=
  rfl

theorem World.report_report (w : World) (notices more : List Notice) :
    (w.report notices).report more = w.report (notices ++ more) := by
  simp only [report, List.append_assoc]

namespace ServiceCapabilities

variable {c : ServiceCapabilities} {l : Layer}

/-- Documents of map and tile services give a layer new properties if they do not refuse it, and
those of feature services give none. -/
theorem isSome_of_patch? {data : String} {patch? : Option LayerPatch}
    (hread : read l.serviceType data = .ok c) (h : (c.patch? l).1 = .ok patch?) :
    patch?.isSome = l.serviceType.refreshesInGroups := by
  cases htype : l.serviceType with
  | wms =>
    rw [htype] at hread
    obtain ⟨maps, -, rfl⟩ := Failure.map_eq_ok.1 hread
    obtain ⟨patch, -, rfl⟩ := Failure.map_eq_ok.1 h
    rfl
  | wmts =>
    rw [htype] at hread
    obtain ⟨tiles, -, rfl⟩ := Failure.map_eq_ok.1 hread
    obtain ⟨patch, -, rfl⟩ := Failure.map_eq_ok.1 h
    rfl
  | wfs =>
    rw [htype] at hread
    cases hread
    cases h
    rfl

theorem refreshed_of_patch?_error {e : DocumentError} (h : (c.patch? l).1 = .error e)
    (now : Instant) : (c.refreshed l now).1 = .error e.toServiceError := by
  unfold refreshed
  rcases hp : c.patch? l with ⟨result, notices⟩
  obtain rfl : result = .error e := by rw [← h, hp]
  rfl

end ServiceCapabilities

/-- The layer with the new properties that its document gives, if it gives any. -/
def Layer.patched (l : Layer) (patch? : Option LayerPatch) (now : Instant) : Layer :=
  match patch? with
  | some patch => { l with capabilities := patch.capabilities, lastUpdated := some now }
  | none => l

theorem ServiceCapabilities.refreshed_of_patch? {c : ServiceCapabilities} {l : Layer}
    {patch? : Option LayerPatch} (h : (c.patch? l).1 = .ok patch?) (now : Instant) :
    (c.refreshed l now).1 = .ok (l.patched patch? now) := by
  cases patch? with
  | none =>
    unfold refreshed
    rcases hp : c.patch? l with ⟨result, notices⟩
    obtain rfl : result = .ok none := by rw [← h, hp]
    rfl
  | some patch =>
    have hid := layerId_of_patch? h
    unfold refreshed
    rcases hp : c.patch? l with ⟨result, notices⟩
    obtain rfl : result = .ok (some patch) := by rw [← h, hp]
    simp only [Layer.withPatch, hid, if_true]
    rfl

namespace LayerRefresh

variable {source : Source} {l : Layer} {data : String} {patch? : Option LayerPatch}

/-! ## The steps that can fail -/

/-- The document of a layer is fetched and read, and it gives the layer new properties, or none if
documents of its kind give none. -/
structure Succeeds (source : Source) (l : Layer) (data : String) (patch? : Option LayerPatch) :
    Prop where
  fetched : ∃ fetched, (source (.ofLayer l)).result = .ok fetched ∧ fetched.data = data
  patched : ∃ c, ServiceCapabilities.read l.serviceType data = .ok c ∧ (c.patch? l).1 = .ok patch?

/-- The document of a layer is not fetched, cannot be read, or refuses the layer. -/
inductive Fails (source : Source) (l : Layer) : Prop where
  | fetch {e : ServiceError} (h : (source (.ofLayer l)).result = .error e)
  | read {fetched : FetchedCapabilities} {e : DocumentError}
      (hfetched : (source (.ofLayer l)).result = .ok fetched)
      (h : ServiceCapabilities.read l.serviceType fetched.data = .error e)
  | patch {fetched : FetchedCapabilities} {c : ServiceCapabilities} {e : DocumentError}
      (hfetched : (source (.ofLayer l)).result = .ok fetched)
      (hread : ServiceCapabilities.read l.serviceType fetched.data = .ok c)
      (h : (c.patch? l).1 = .error e)

theorem succeeds_or_fails (source : Source) (l : Layer) :
    (∃ data patch?, Succeeds source l data patch?) ∨ Fails source l := by
  cases hfetched : (source (.ofLayer l)).result with
  | error e => exact .inr (.fetch hfetched)
  | ok fetched =>
    cases hread : ServiceCapabilities.read l.serviceType fetched.data with
    | error e => exact .inr (.read hfetched hread)
    | ok c =>
      cases hpatch : (c.patch? l).1 with
      | error e => exact .inr (.patch hfetched hread hpatch)
      | ok patch? => exact .inl ⟨_, patch?, ⟨fetched, hfetched, rfl⟩, c, hread, hpatch⟩

theorem Succeeds.not_fails (h : Succeeds source l data patch?) : ¬ Fails source l := by
  obtain ⟨⟨fetched, hfetched, rfl⟩, c, hread, hpatch⟩ := h
  rintro (herror | ⟨hfetched', herror⟩ | ⟨hfetched', hread', herror⟩)
  · cases hfetched.symm.trans herror
  · cases hfetched.symm.trans hfetched'
    cases hread.symm.trans herror
  · cases hfetched.symm.trans hfetched'
    cases hread.symm.trans hread'
    cases hpatch.symm.trans herror

/-! ## What each step leaves behind -/

/-- The store after it was given the document of a layer. -/
def storeAfter (l : Layer) (data : String) (w : World) : DocumentStore :=
  if w.documents.saveRefused then w.documents else w.documents.put (w.draft (.ofLayer l) data)

theorem cacheDocument_eq (l : Layer) (data : String) (w : World) :
    ∃ notices, cacheDocument l data w =
      { w with documents := storeAfter l data w }.report notices := by
  unfold cacheDocument Cache.saveFetched World.save storeAfter DocumentStore.save
  cases w.documents.saveRefused with
  | true => exact ⟨_, rfl⟩
  | false => exact ⟨[], by simp [World.report]⟩

theorem readLayer_of_read_error {e : DocumentError}
    (h : ServiceCapabilities.read l.serviceType data = .error e) (w : World) :
    readLayer l data w = (.error e.toServiceError, w) := by
  rw [readLayer, h]

theorem readLayer_of_read {c : ServiceCapabilities}
    (h : ServiceCapabilities.read l.serviceType data = .ok c) (w : World) :
    readLayer l data w = ((c.refreshed l w.now).1, w.report (c.refreshed l w.now).2) := by
  rw [readLayer, h]

theorem tryRun_of_fails (h : Fails source l) (w : World) :
    ∃ e notices, tryRun source l w = (.error e, (w.send (.ofLayer l)).report notices) := by
  rw [tryRun, World.fetch_eq]
  rcases h with h | ⟨hfetched, h⟩ | ⟨hfetched, hread, h⟩
  · rw [h]
    exact ⟨_, _, rfl⟩
  · simp only [hfetched, readLayer_of_read_error h]
    exact ⟨_, _, rfl⟩
  · simp only [hfetched, readLayer_of_read hread, ServiceCapabilities.refreshed_of_patch?_error h,
      World.report_report]
    exact ⟨_, _, rfl⟩

theorem tryRun_of_succeeds (h : Succeeds source l data patch?) (w : World) :
    ∃ notices, tryRun source l w = (.ok (l.patched patch? w.now),
      ({ w with documents := storeAfter l data w }.send (.ofLayer l)).report notices) := by
  obtain ⟨⟨fetched, hfetched, rfl⟩, c, hread, hpatch⟩ := h
  rw [tryRun, World.fetch_eq]
  simp only [hfetched, readLayer_of_read hread, ServiceCapabilities.refreshed_of_patch? hpatch]
  obtain ⟨notices, hcache⟩ := cacheDocument_eq l fetched.data
    (((w.send (.ofLayer l)).report (source (.ofLayer l)).notices).report (c.refreshed l w.now).2)
  refine ⟨(source (.ofLayer l)).notices ++ ((c.refreshed l w.now).2 ++ notices), ?_⟩
  rw [← World.report_report, ← World.report_report]
  exact congrArg _ hcache

/-- A refresh that fails leaves the layer as it was, and the world but for the request and the
notices. -/
theorem run_of_fails (h : Fails source l) (w : World) :
    ∃ notices, run source l w = ({ layer := l, updated := false, warning := some readFailure },
      (w.send (.ofLayer l)).report notices) := by
  obtain ⟨e, notices, htry⟩ := tryRun_of_fails h w
  rw [run, htry]
  simp only [World.report_report]
  exact ⟨_, rfl⟩

/-- A refresh that succeeds gives the document to the store and changes nothing else of the world,
but for the request and the notices. -/
theorem run_of_succeeds (h : Succeeds source l data patch?) (w : World) :
    ∃ notices, run source l w =
      ({ layer := l.patched patch? w.now, updated := true, warning := none },
        ({ w with documents := storeAfter l data w }.send (.ofLayer l)).report notices) := by
  obtain ⟨notices, htry⟩ := tryRun_of_succeeds h w
  exact ⟨notices, by rw [run, htry]⟩

/-! ## The two ends of a refresh -/

/-- The layer was refreshed: it has its new properties, and the store has the document unless it
took none. -/
structure IsDone (l : Layer) (data : String) (patch? : Option LayerPatch) (w : World)
    (outcome : LayerRefresh) (after : World) : Prop where
  updated : outcome.updated = true
  warning : outcome.warning = none
  layer : outcome.layer = l.patched patch? w.now
  isSome_patch? : patch?.isSome ↔ l.serviceType = .wms ∨ l.serviceType = .wmts
  saved : w.documents.saveRefused = false →
    ∃ d, after.documents.find? l.documentKey = some d ∧ d.data = data
  writes : after.documents.writes =
    if w.documents.saveRefused then w.documents.writes else w.documents.writes + 1
  others : ∀ key, key ≠ l.documentKey →
    after.documents.find? key = w.documents.find? key
  refused : w.documents.saveRefused = true → after.documents = w.documents

/-- The layer was not refreshed: neither it nor the store has changed. -/
structure IsLeft (l : Layer) (w : World) (outcome : LayerRefresh) (after : World) : Prop where
  updated : outcome.updated = false
  warning : outcome.warning = some "metadataReadFailure"
  layer : outcome.layer = l
  documents : after.documents = w.documents

theorem isDone (hpatch : patch?.isSome = l.serviceType.refreshesInGroups) (w : World)
    (notices : List Notice) :
    IsDone l data patch? w { layer := l.patched patch? w.now, updated := true, warning := none }
      (({ w with documents := storeAfter l data w }.send (.ofLayer l)).report notices) where
  updated := rfl
  warning := rfl
  layer := rfl
  isSome_patch? := by
    rw [hpatch]
    cases l.serviceType <;> simp [ServiceType.refreshesInGroups]
  saved htakes := by
    refine ⟨w.documents.stored (w.draft (.ofLayer l) data), ?_, ?_⟩
    · show (storeAfter l data w).find? _ = _
      rw [storeAfter, htakes, ← w.key_draft l data]
      exact w.documents.find?_put_self _
    · rw [DocumentStore.stored_eq]
      rfl
  writes := by
    show (storeAfter l data w).writes = _
    unfold storeAfter
    split <;> rfl
  others key hkey := by
    show (storeAfter l data w).find? key = _
    rw [← w.key_draft l data] at hkey
    unfold storeAfter
    split
    · rfl
    · exact w.documents.find?_put_of_ne hkey.symm
  refused hrefused := by
    show storeAfter l data w = _
    rw [storeAfter, hrefused]
    rfl

/-- A refresh succeeds as a whole or leaves the layer and the store as they were, and which of both
is settled by the steps that can fail. In each case one request is sent, and nothing but the store
of documents has changed besides. The key of the document is that of the layer just if the endpoint
in it is in its one spelling. -/
theorem run_all_or_nothing (source : Source) (l : Layer) (w : World) :
    ((∃ data patch?, Succeeds source l data patch? ∧
        IsDone l data patch? w (run source l w).1 (run source l w).2) ∨
      Fails source l ∧ IsLeft l w (run source l w).1 (run source l w).2) ∧
    ((run source l w).1.updated = false ↔ Fails source l) ∧
    (run source l w).2.requests = w.requests ++ [.ofLayer l] ∧
    (run source l w).2.layers = w.layers ∧
    (l.documentKey = .ofLayer l ↔ (ServiceKey.ofLayer l).IsStable) := by
  rcases succeeds_or_fails source l with ⟨data, patch?, hsucceeds⟩ | hfails
  · obtain ⟨notices, hrun⟩ := run_of_succeeds hsucceeds w
    obtain ⟨c, hread, hpatch⟩ := hsucceeds.patched
    rw [hrun]
    refine ⟨.inl ⟨data, patch?, hsucceeds, ?_⟩, ?_, rfl, rfl, l.documentKey_eq_iff⟩
    · exact isDone (ServiceCapabilities.isSome_of_patch? hread hpatch) w notices
    · exact iff_of_false Bool.noConfusion hsucceeds.not_fails
  · obtain ⟨notices, hrun⟩ := run_of_fails hfails w
    rw [hrun]
    refine ⟨.inr ⟨hfails, ?_⟩, iff_of_true rfl hfails, rfl, rfl, l.documentKey_eq_iff⟩
    exact ⟨rfl, rfl, rfl, rfl⟩

end LayerRefresh

end MapServices
