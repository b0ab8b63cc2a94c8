import MapServices.Capabilities.Basic
import MapServices.Refresh.Group
import MapServices.World

/-!
# Refreshing all layers

A refresh lists the layers, fetches one document for each group of them, and writes the properties
that the document gives to each layer of the group. Whatever goes wrong stays where it is: a group
that fails does not stop the refresh, and a layer that fails does not stop its group.

At most one refresh is under way at a time. Another one that is asked for meanwhile is skipped.

* `RefreshJob.run` is a whole refresh. It is put together from functions that each take up the
  work where one of its steps has ended.
-/

namespace MapServices

/-- What a refresh did. -/
structure RefreshSummary where
  groups : Nat := 0
  /-- The groups whose document could not be fetched or read. -/
  groupsFailed : Nat := 0
  layersUpdated : Nat := 0
  /-- The layers of the other groups that could not be updated. -/
  layersFailed : Nat := 0
  /-- Nothing was done, since another refresh was under way. -/
  skipped : Bool := false
deriving DecidableEq, Inhabited, Repr

namespace RefreshSummary

/-- Counts a group that failed. -/
def failGroup (s : RefreshSummary) : RefreshSummary := { s with groupsFailed := s.groupsFailed + 1 }

/-- Counts a layer that was updated. -/
def updateLayer (s : RefreshSummary) : RefreshSummary :=
  { s with layersUpdated := s.layersUpdated + 1 }

/-- Counts a layer that failed. -/
def failLayer (s : RefreshSummary) : RefreshSummary := { s with layersFailed := s.layersFailed + 1 }

end RefreshSummary

/-- A refresh of all layers. -/
structure RefreshJob where
  source : Source
  /-- Every document that was fetched is saved. -/
  savesDocuments : Bool := false

namespace RefreshJob

/-- The world after a refresh has ended. -/
def release (w : World) : World := { w with refreshing := false }

/-- Writes the properties that a document, read at `readAt`, gives to a layer. -/
def writeLayer (c : ServiceCapabilities) (readAt : Instant) (l : Layer) (w : World) :
    Except ServiceError Unit × World :=
  let (result, notices) := c.refreshed l readAt
  let w := w.report notices
  match result with
  | .error e => (.error e, w)
  | .ok updated => w.update updated

/-- Updates a layer from a document and counts it. -/
def updateLayer (c : ServiceCapabilities) (readAt : Instant) (l : Layer) (s : RefreshSummary)
    (w : World) : RefreshSummary × World :=
  match writeLayer c readAt l w with
  | (.ok (), w) => (s.updateLayer, w)
  | (.error e, w) => (s.failLayer, w.report [.layerNotUpdated l.id l.name e])

/-- Updates layers from a document, one after the other. -/
def updateLayers (c : ServiceCapabilities) (readAt : Instant) :
    List Layer → RefreshSummary → World → RefreshSummary × World
  | [], s, w => (s, w)
  | l :: rest, s, w =>
    let (s, w) := updateLayer c readAt l s w
    updateLayers c readAt rest s w

/-- Counts a group that failed and says why. -/
def failGroup (g : LayerGroup) (e : ServiceError) (s : RefreshSummary) (w : World) :
    RefreshSummary × World :=
  (s.failGroup, w.report [.groupNotRefreshed g.key g.layerIds e])

/-- Goes on with a group when its document is there. -/
def afterDocument (g : LayerGroup) (data : String) (s : RefreshSummary) (w : World) :
    RefreshSummary × World :=
  match ServiceCapabilities.read g.key.serviceType data with
  | .error e => failGroup g e.toServiceError s w
  | .ok c => updateLayers c w.now g.layers s w

/-- Saves the document of a group. -/
def saveDocument (draft : CapabilitiesDocument) (w : World) : World :=
  match w.save draft with
  | (.ok _, w) => w
  | (.error e, w) => w.report [.documentNotStored e]

/-- Saving a document changes the stored documents and gives notices at most. -/
theorem saveDocument_eq (d : CapabilitiesDocument) (w : World) :
    saveDocument d w =
      { w with
        documents := (w.documents.save d).2
        notices := (saveDocument d w).notices } := by
  unfold saveDocument World.save
  rcases w.documents.save d with ⟨e | saved, documents⟩ <;> rfl

/-- Goes on with a group when the answer to its request has come. -/
def afterAnswer (job : RefreshJob) (g : LayerGroup) (s : RefreshSummary) :
    Except ServiceError FetchedCapabilities × World → RefreshSummary × World
  | (.error e, w) => failGroup g e s w
  | (.ok fetched, w) =>
    afterDocument g fetched.data s
      (if job.savesDocuments then saveDocument (w.draft g.key fetched.data) w else w)

/-- Goes on with a group when its request was sent. -/
def afterRequest (job : RefreshJob) (g : LayerGroup) (s : RefreshSummary) (w : World) :
    RefreshSummary × World :=
  job.afterAnswer g s (w.receive job.source g.request)

/-- Refreshes the layers of a group. -/
def refreshGroup (job : RefreshJob) (g : LayerGroup) (s : RefreshSummary) (w : World) :
    RefreshSummary × World :=
  job.afterRequest g s (w.send g.request)

/-- Refreshes groups one after the other. -/
def refreshGroups (job : RefreshJob) :
    List LayerGroup → RefreshSummary → World → RefreshSummary × World
  | [], s, w => (s, release w)
  | g :: rest, s, w =>
    let (s, w) := job.refreshGroup g s w
    job.refreshGroups rest s w

/-- Goes on when it is settled that no other refresh is under way. -/
def afterStart (job : RefreshJob) (w : World) : RefreshSummary × World :=
  match w.layers.all with
  | .error e => ({}, release (w.report [.layersNotLoaded e]))
  | .ok layers =>
    let groups := LayerGroups.ofLayers layers
    job.refreshGroups groups.values { groups := groups.size } (w.report groups.notices)

/-- Refreshes all layers, unless another refresh is under way. -/
def run (job : RefreshJob) (w : World) : RefreshSummary × World :=
  if w.refreshing then ({ skipped := true }, w.report [.alreadyRunning])
  else job.afterStart { w with refreshing := true }

end RefreshJob

end MapServices
