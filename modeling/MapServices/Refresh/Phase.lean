import MapServices.Refresh.Job

/-!
# A refresh step by step

Between two steps of a refresh other things may happen: while it waits for its layers, for an
answer, for a document to be saved or for a layer to be written. A `RefreshPhase` is where a
refresh stands between two steps.

* `finish_step`: one step, and then the rest without interruption, is the same as doing without
  interruption all that is left. So `RefreshJob.run` is what the steps amount to.
* `RefreshJob.overlap` is a refresh during which another one is asked for.
-/

namespace MapServices

/-- Where a refresh stands. -/
inductive RefreshPhase where
  /-- It has not looked yet whether another refresh is under way. -/
  | starting
  /-- It is about to list the layers. -/
  | loading
  /-- It is about to send the request of the next group. -/
  | choosing (rest : List LayerGroup) (summary : RefreshSummary)
  /-- It waits for the answer to the request of a group. -/
  | awaiting (group : LayerGroup) (rest : List LayerGroup) (summary : RefreshSummary)
  /-- It is about to save the document of a group. -/
  | saving (group : LayerGroup) (draft : CapabilitiesDocument) (rest : List LayerGroup)
    (summary : RefreshSummary)
  /-- It is about to update layers from the document of their group, which was read at `readAt`. -/
  | updating (capabilities : ServiceCapabilities) (readAt : Instant) (layers : List Layer)
    (rest : List LayerGroup) (summary : RefreshSummary)
  /-- It has ended. -/
  | finished (summary : RefreshSummary)
deriving Inhabited

namespace RefreshPhase

/-- Where a refresh stands when the document of a group is there. -/
def ofDocument (g : LayerGroup) (data : String) (rest : List LayerGroup) (s : RefreshSummary)
    (w : World) : RefreshPhase × World :=
  match ServiceCapabilities.read g.key.serviceType data with
  | .error e =>
    let (s, w) := RefreshJob.failGroup g e.toServiceError s w
    (choosing rest s, w)
  | .ok c => (updating c w.now g.layers rest s, w)

/-- One step of a refresh. -/
def step (job : RefreshJob) (p : RefreshPhase) (w : World) : RefreshPhase × World :=
  match p with
  | starting =>
    if w.refreshing then (finished { skipped := true }, w.report [.alreadyRunning])
    else (loading, { w with refreshing := true })
  | loading =>
    match w.layers.all with
    | .error e => (finished {}, RefreshJob.release (w.report [.layersNotLoaded e]))
    | .ok layers =>
      let groups := LayerGroups.ofLayers layers
      (choosing groups.values { groups := groups.size }, w.report groups.notices)
  | choosing [] s => (finished s, RefreshJob.release w)
  | choosing (g :: rest) s => (awaiting g rest s, w.send g.request)
  | awaiting g rest s =>
    match w.receive job.source g.request with
    | (.error e, w) =>
      let (s, w) := RefreshJob.failGroup g e s w
      (choosing rest s, w)
    | (.ok fetched, w) =>
      if job.savesDocuments then (saving g (w.draft g.key fetched.data) rest s, w)
      else ofDocument g fetched.data rest s w
  | saving g draft rest s => ofDocument g draft.data rest s (RefreshJob.saveDocument draft w)
  | updating _ _ [] rest s => (choosing rest s, w)
  | updating c readAt (l :: ls) rest s =>
    let (s, w) := RefreshJob.updateLayer c readAt l s w
    (updating c readAt ls rest s, w)
  | finished s => (finished s, w)

/-- Goes on with the groups that are left when one of them is done. -/
def thenGroups (job : RefreshJob) (rest : List LayerGroup) (r : RefreshSummary × World) :
    RefreshSummary × World :=
  job.refreshGroups rest r.1 r.2

/-- Does all that is left of a refresh, without interruption. -/
def finish (job : RefreshJob) (p : RefreshPhase) (w : World) : RefreshSummary × World :=
  match p with
  | starting => job.run w
  | loading => job.afterStart w
  | choosing rest s => job.refreshGroups rest s w
  | awaiting g rest s => thenGroups job rest (job.afterRequest g s w)
  | saving g draft rest s =>
    thenGroups job rest
      (RefreshJob.afterDocument g draft.data s (RefreshJob.saveDocument draft w))
  | updating c readAt layers rest s =>
    thenGroups job rest (RefreshJob.updateLayers c readAt layers s w)
  | finished s => (s, w)

theorem finish_ofDocument (job : RefreshJob) (g : LayerGroup) (data : String)
    (rest : List LayerGroup) (s : RefreshSummary) (w : World) :
    finish job (ofDocument g data rest s w).1 (ofDocument g data rest s w).2 =
      thenGroups job rest (RefreshJob.afterDocument g data s w) := by
  unfold ofDocument RefreshJob.afterDocument
  cases ServiceCapabilities.read g.key.serviceType data <;> rfl

/-- One step, and then the rest without interruption, is all that is left without interruption. -/
theorem finish_step (job : RefreshJob) (p : RefreshPhase) (w : World) :
    finish job (p.step job w).1 (p.step job w).2 = p.finish job w := by
  cases p with
  | starting =>
    by_cases h : w.refreshing <;> simp [step, finish, RefreshJob.run, h]
  | loading =>
    simp only [step, finish, RefreshJob.afterStart]
    cases w.layers.all <;> rfl
  | choosing rest s => cases rest <;> rfl
  | awaiting g rest s =>
    show _ = thenGroups job rest (job.afterRequest g s w)
    simp only [step, RefreshJob.afterRequest]
    rcases w.receive job.source g.request with ⟨e | fetched, w'⟩
    · rfl
    · cases h : job.savesDocuments
      · simpa [RefreshJob.afterAnswer, h] using finish_ofDocument job g fetched.data rest s w'
      · simp [RefreshJob.afterAnswer, h, finish, World.draft, CapabilitiesDocument.ofKey]
  | saving g draft rest s => exact finish_ofDocument job g draft.data rest s _
  | updating c readAt layers rest s => cases layers <;> rfl
  | finished s => rfl

/-- The first three steps of a refresh: it looks for another one, lists the layers, and sends the
request of the first group. A refresh without a request has ended then. -/
def untilRequest (job : RefreshJob) (w : World) : RefreshPhase × World :=
  let (p, w) := step job starting w
  let (p, w) := step job p w
  step job p w

end RefreshPhase

namespace RefreshJob

/-- Starts a refresh, asks for another one while the first waits for its first answer, and goes on
with the first. -/
def overlap (job : RefreshJob) (w : World) : RefreshSummary × RefreshSummary × World :=
  let (phase, w) := RefreshPhase.untilRequest job w
  let (second, w) := job.run w
  let (first, w) := phase.finish job w
  (first, second, w)

end RefreshJob

end MapServices
