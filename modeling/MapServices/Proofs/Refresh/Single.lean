import MapServices.Proofs.Failure
import MapServices.Proofs.Key
import MapServices.Proofs.Refresh.Outcome
import MapServices.Refresh.Single

/-!
# A layer refreshed by itself and in its group

A layer that is refreshed by itself sends a request made from its configuration; in a group the
request is made from the key and the credentials of the first layer. The two requests differ in the
spelling of the address at most. So a source that looks at the endpoint only, and not at its
spelling, answers both alike, and from there on the same document decides in both cases.

* `LayerRefresh.run_eq`: what becomes of a layer that is refreshed by itself, in terms of what its
  document says about it.
* `RefreshJob.refreshedLayer_eq`: what becomes of a layer in its group, in the same terms.
* `LayerRefresh.run_agrees_with_job`: a layer gets the same properties either way, or none.
-/

namespace MapServices

/-! ## Sources that do not look at the spelling of an address -/

/-- The answer is settled by the endpoint, the type of the service, the version and the
credentials. -/
structure Source.AnswersByEndpoint (source : Source) : Prop where
  result_congr : ∀ {r r' : FetchRequest}, Endpoint.simplify r.url = Endpoint.simplify r'.url →
    r.serviceType = r'.serviceType → r.version = r'.version → r.credentials = r'.credentials →
      (source r).result = (source r').result

theorem FetchRequest.address_congr {r r' : FetchRequest}
    (hurl : Endpoint.simplify r.url = Endpoint.simplify r'.url)
    (htype : r.serviceType = r'.serviceType) (hversion : r.version = r'.version) :
    r.address = r'.address := by
  unfold address capabilitiesUrl
  rw [hurl, htype, hversion]

theorem SourceTable.answersByEndpoint (t : SourceTable) : Source.AnswersByEndpoint t.answer := by
  constructor
  intro r r' hurl htype hversion hcredentials
  unfold answer
  rw [hurl]
  cases t.entries.get? (Endpoint.simplify r'.url) with
  | none => simp only [FetchRequest.address_congr hurl htype hversion]
  | some entry =>
    cases entry with
    | document data => simp only [FetchRequest.address_congr hurl htype hversion]
    | response response =>
      simp only [Response.toAnswer, FetchRequest.address_congr hurl htype hversion, htype, hversion]

/-! ## The document of a request -/

namespace Source

variable (source : Source) {request : FetchRequest} {t : ServiceType}

/-- What can be read in the document that answers a request. -/
def documentFor (request : FetchRequest) (t : ServiceType) :
    Except ServiceError ServiceCapabilities :=
  match (source request).result with
  | .error e => .error e
  | .ok fetched =>
    (ServiceCapabilities.read t fetched.data).mapError DocumentError.toServiceError

theorem describesLayers_of_documentFor {c : ServiceCapabilities} (ht : t.refreshesInGroups)
    (h : source.documentFor request t = .ok c) : c.describesLayers := by
  unfold documentFor at h
  split at h
  · cases h
  · rename_i fetched hfetched
    exact ServiceCapabilities.describesLayers_of_read ht (Failure.mapError_eq_ok.1 h)

/-- The properties that a layer gets from the document that answers a request, if it gets any. -/
def derivedFor? (request : FetchRequest) (l : Layer) : Option LayerCapabilities :=
  (source.documentFor request l.serviceType).toOption.bind (·.derived? l)

end Source

/-! ## A layer by itself -/

namespace LayerRefresh

variable (source : Source) {l : Layer}

/-- What is done with the document after the layer has been read does not show in the layer. -/
theorem tryRun_eq (l : Layer) (w : World) :
    (tryRun source l w).1 =
      (source.documentFor (.ofLayer l) l.serviceType).bind fun c => (c.refreshed l w.now).1 := by
  simp only [tryRun, World.fetch, World.receive, Source.documentFor]
  cases (source (.ofLayer l)).result with
  | error e => rfl
  | ok fetched =>
    simp only [readLayer]
    cases ServiceCapabilities.read l.serviceType fetched.data with
    | error e => rfl
    | ok c =>
      simp only [Failure.mapError_ok, Except.bind, World.report, World.send]
      cases (c.refreshed l w.now).1 <;> rfl

theorem run_of_tryRun (l : Layer) (w : World) :
    (run source l w).1 =
      match (tryRun source l w).1 with
      | .ok updated => { layer := updated, updated := true, warning := none }
      | .error _ => { layer := l, updated := false, warning := some readFailure } := by
  unfold run
  rcases tryRun source l w with ⟨e | updated, w'⟩ <;> rfl

/-- A layer that is refreshed by itself gets the properties that its document gives. -/
theorem run_eq (htype : l.serviceType.refreshesInGroups) (w : World) :
    (run source l w).1 =
      match source.derivedFor? (.ofLayer l) l with
      | some derived => {
          layer := { l with capabilities := derived, lastUpdated := some w.now }
          updated := true
          warning := none }
      | none => { layer := l, updated := false, warning := some readFailure } := by
  rw [run_of_tryRun, tryRun_eq, Source.derivedFor?]
  cases hdocument : source.documentFor (.ofLayer l) l.serviceType with
  | error e => rfl
  | ok c =>
    have hrefreshed :=
      c.refreshed_eq (source.describesLayers_of_documentFor htype hdocument) l w.now
    simp only [Except.bind, Except.toOption, Option.bind_some]
    cases hderived : c.derived? l with
    | none =>
      rw [hderived] at hrefreshed
      obtain ⟨e, he⟩ := hrefreshed
      rw [he]
    | some derived =>
      rw [hderived] at hrefreshed
      rw [hrefreshed]

end LayerRefresh

/-! ## The same layer in its group -/

namespace RefreshJob

variable (job : RefreshJob) {layers : List Layer} {failing : List Int} {l : Layer}

theorem documentFor_ofLayer (layers : List Layer) (l : Layer) :
    job.documentFor layers (.ofLayer l) =
      job.source.documentFor (requestFor layers (.ofLayer l)) l.serviceType :=
  rfl

/-- A layer gets the properties that the document of its group gives. -/
theorem refreshedLayer_eq (htype : l.serviceType.refreshesInGroups) (hfailing : l.id ∉ failing)
    (now : Instant) :
    job.refreshedLayer layers failing now l =
      match job.source.derivedFor? (requestFor layers (.ofLayer l)) l with
      | some derived => { l with capabilities := derived, lastUpdated := some now }
      | none => l := by
  rw [refreshedLayer, if_pos htype, documentFor_ofLayer, Source.derivedFor?]
  cases job.source.documentFor (requestFor layers (.ofLayer l)) l.serviceType with
  | error e => rfl
  | ok c => exact if_neg hfailing

theorem rewrites_eq (htype : l.serviceType.refreshesInGroups) (hfailing : l.id ∉ failing) :
    job.rewrites layers failing l =
      (job.source.derivedFor? (requestFor layers (.ofLayer l)) l).isSome := by
  rw [rewrites, htype, Bool.true_and, documentFor_ofLayer, Source.derivedFor?]
  cases job.source.documentFor (requestFor layers (.ofLayer l)) l.serviceType with
  | error e => rfl
  | ok c => simp [ServiceCapabilities.rewrites, hfailing, Except.toOption]

/-- The request of a group differs from the one that a layer of it would send in the spelling of the
address at most, if the first layer has the credentials of that layer. -/
theorem derivedFor?_requestFor (hsource : job.source.AnswersByEndpoint) (hl : l ∈ layers)
    (htype : l.serviceType.refreshesInGroups) (hstable : (ServiceKey.ofLayer l).IsStable)
    (hcredentials : ∀ first ∈ layers.find? (Layer.belongsTo (.ofLayer l)),
      first.credentials = l.credentials) :
    job.source.derivedFor? (requestFor layers (.ofLayer l)) l =
      job.source.derivedFor? (.ofLayer l) l := by
  have hfirst : ∃ first, layers.find? (Layer.belongsTo (.ofLayer l)) = some first := by
    rw [← Option.isSome_iff_exists, List.find?_isSome]
    exact ⟨l, hl, Layer.belongsTo_iff.2 ⟨htype, rfl⟩⟩
  obtain ⟨first, hfirst⟩ := hfirst
  have hurl : Endpoint.simplify (requestFor layers (.ofLayer l)).url =
      Endpoint.simplify (FetchRequest.ofLayer l).url := hstable
  have hanswer : (job.source (requestFor layers (.ofLayer l))).result =
      (job.source (.ofLayer l)).result := by
    apply hsource.result_congr hurl rfl rfl
    rw [requestFor, hfirst]
    exact hcredentials first hfirst
  rw [Source.derivedFor?, Source.derivedFor?, Source.documentFor, Source.documentFor, hanswer]

/-- After a refresh of all layers a layer is stored as the document of its group settles it. -/
theorem get?_run {w : World} (hrun : (job.run w).1.skipped = false)
    (hload : w.layers.all = .ok layers) (hl : l ∈ layers)
    (htype : l.serviceType.refreshesInGroups) :
    (job.run w).2.layers.get? l.id =
      some (job.refreshedLayer layers w.layers.failing w.now l) := by
  have hlisted : ∀ l' ∈ layers, w.layers.get? l'.id = some l' := by
    intro l' hl'
    apply get?_of_mem_values
    rw [values_eq_of_all hload]
    exact hl'
  have hmembers := LayerGroups.perm_flatMap_layers layers
  obtain ⟨hwritten, -⟩ := refreshGroups_spec job (LayerGroups.ofLayers layers).values
    (fun _ hg => hg) { groups := (LayerGroups.ofLayers layers).size }
    ({ w with refreshing := true }.report (LayerGroups.ofLayers layers).notices) (nodup_ids hload)
    fun l' hl' => hlisted l' (List.mem_filter.1 (hmembers.mem_iff.1 hl')).1
  have hid : l.id ∈ ((LayerGroups.ofLayers layers).values.flatMap LayerGroup.layers).map Layer.id :=
    List.mem_map_of_mem (hmembers.mem_iff.2 (List.mem_filter.2 ⟨hl, htype⟩))
  rw [run_eq_refreshGroups job hrun hload, hwritten.get? l.id, if_pos hid]
  exact congrArg (Option.map _) (hlisted l hl)

end RefreshJob

/-! ## Both agree -/

namespace LayerRefresh

/-- A layer that is refreshed by itself is updated exactly when a refresh of all layers writes it,
and gets the same properties; otherwise it is left as it was in both cases. The two refreshes may
take place in different worlds: neither the stored documents nor the other layers matter. -/
theorem run_agrees_with_job (job : RefreshJob) {w : World} {layers : List Layer} {l : Layer}
    (hrun : (job.run w).1.skipped = false) (hload : w.layers.all = .ok layers) (hl : l ∈ layers)
    (htype : l.serviceType.refreshesInGroups) (hstable : (ServiceKey.ofLayer l).IsStable)
    (hcredentials : ∀ first ∈ layers.find? (Layer.belongsTo (.ofLayer l)),
      first.credentials = l.credentials)
    (hsource : job.source.AnswersByEndpoint) (hfailing : l.id ∉ w.layers.failing) (v : World) :
    (run job.source l v).1.updated = job.rewrites layers w.layers.failing l ∧
      (job.run w).2.layers.get? l.id = some
        (if (run job.source l v).1.updated then
          { l with
            capabilities := (run job.source l v).1.layer.capabilities
            lastUpdated := some w.now }
        else l) ∧
      ((run job.source l v).1.updated = false → (run job.source l v).1.layer = l) := by
  have hsame := job.derivedFor?_requestFor hsource hl htype hstable hcredentials
  rw [job.rewrites_eq htype hfailing, job.get?_run hrun hload hl htype,
    job.refreshedLayer_eq htype hfailing, hsame, run_eq job.source htype]
  cases job.source.derivedFor? (.ofLayer l) l with
  | none => exact ⟨rfl, rfl, fun _ => rfl⟩
  | some derived => exact ⟨rfl, rfl, fun h => nomatch h⟩

/-- A layer of a map service. -/
def roads : Layer := { id := 1, name := "roads", url := "maps", serviceType := .wms }

/-- A layer of the same service under another spelling of its address. -/
def rails : Layer :=
  { id := 2, name := "rails", url := " maps?", serviceType := .wms, version := some " " }

def spelledWorld : World := { layers := LayerStore.ofList [roads, rails] }

def spelledTable : SourceTable :=
  .ofList [("maps&", .document
    ("<WMS_Capabilities><Capability><Layer queryable='1'><Name>rails</Name></Layer></Capability>" ++
      "</WMS_Capabilities>"))]

def spelledJob : RefreshJob := { source := spelledTable.answer, savesDocuments := true }

/-- The job keeps for the second layer what a refresh of this layer alone derives, although it asks
under the spelling of the first one. -/
theorem run_agrees_with_job_spelled :
    (spelledJob.run spelledWorld).1.skipped = false ∧
      spelledWorld.layers.all = .ok [roads, rails] ∧ rails ∈ [roads, rails] ∧
      rails.serviceType.refreshesInGroups ∧ (ServiceKey.ofLayer rails).IsStable ∧
      (∀ first ∈ [roads, rails].find? (Layer.belongsTo (.ofLayer rails)),
        first.credentials = rails.credentials) ∧
      spelledJob.source.AnswersByEndpoint ∧ rails.id ∉ spelledWorld.layers.failing ∧
      (run spelledJob.source rails {}).1.updated = true ∧
      (spelledJob.run spelledWorld).2.layers.get? rails.id = some
        { rails with
          capabilities := (run spelledJob.source rails {}).1.layer.capabilities
          lastUpdated := some spelledWorld.now } := by
  have hrun : (spelledJob.run spelledWorld).1.skipped = false := by decide +kernel
  have hload : spelledWorld.layers.all = .ok [roads, rails] := rfl
  have hl : rails ∈ [roads, rails] := by simp
  have hstable : (ServiceKey.ofLayer rails).IsStable := by
    show Endpoint.simplify (Endpoint.simplify " maps?") = Endpoint.simplify " maps?"
    decide
  have hfirst : [roads, rails].find? (Layer.belongsTo (.ofLayer rails)) = some roads := by
    have hroads : roads.belongsTo (.ofLayer rails) = true := by decide +kernel
    rw [List.find?_cons_of_pos hroads]
  have hcredentials : ∀ first ∈ [roads, rails].find? (Layer.belongsTo (.ofLayer rails)),
      first.credentials = rails.credentials := by
    rw [hfirst]
    rintro first ⟨⟩
    rfl
  have hsource : spelledJob.source.AnswersByEndpoint := by
    simp only [spelledJob]
    exact spelledTable.answersByEndpoint
  have hfailing : rails.id ∉ spelledWorld.layers.failing := by
    simp [spelledWorld, LayerStore.ofList]
  have hupdated : (run spelledJob.source rails {}).1.updated = true := by decide +kernel
  obtain ⟨-, hget, -⟩ :=
    run_agrees_with_job spelledJob hrun hload hl rfl hstable hcredentials hsource hfailing {}
  rw [if_pos hupdated] at hget
  exact ⟨hrun, hload, hl, rfl, hstable, hcredentials, hsource, hfailing, hupdated, hget⟩

end LayerRefresh

end MapServices
