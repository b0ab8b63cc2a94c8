import MapServices.Refresh.Calls

/-!
# What a step of a refresh depends on

A step reads the layers, the documents and the guard, and the moment at which it is taken. Worlds
that are `Alike` differ in their time and their notices only, and a step takes them to worlds that
are alike again.

* `stepsAt_alike`: so do any number of steps of one call.
* `guard_step`: a refresh that was admitted holds the guard until the step that ends it.
* `run_of_stepsAt`: a call that takes all its steps at one moment does what `RefreshJob.run` does.
-/

namespace MapServices

/-! ## Worlds that differ in their notices -/

/-- The same layers, documents, requests and guard. -/
structure World.Alike (w w' : World) : Prop where
  layers : w.layers = w'.layers
  documents : w.documents = w'.documents
  requests : w.requests = w'.requests
  refreshing : w.refreshing = w'.refreshing

namespace World.Alike

variable {w w' w'' : World}

theorem refl (w : World) : w.Alike w := ⟨rfl, rfl, rfl, rfl⟩

theorem symm (h : w.Alike w') : w'.Alike w :=
  ⟨h.layers.symm, h.documents.symm, h.requests.symm, h.refreshing.symm⟩

theorem trans (h : w.Alike w') (h' : w'.Alike w'') : w.Alike w'' :=
  ⟨h.layers.trans h'.layers, h.documents.trans h'.documents, h.requests.trans h'.requests,
    h.refreshing.trans h'.refreshing⟩

/-- Worlds that are alike at one time are one world up to its notices. -/
theorem eq_with_notices (h : w.Alike w') (t : Instant) :
    { w' with now := t } = { { w with now := t } with notices := w'.notices } := by
  cases w; cases w'
  obtain ⟨rfl, rfl, rfl, rfl⟩ := h
  rfl

end World.Alike

/-- The same result and, up to notices, the same world. -/
def Agree {α : Type} (r r' : α × World) : Prop :=
  ∃ notices, r' = (r.1, { r.2 with notices })

namespace RefreshPhase

variable (job : RefreshJob)

theorem agree_ofDocument (g : LayerGroup) (data : String) (rest : List LayerGroup)
    (s : RefreshSummary) (w : World) (notices : List Notice) :
    Agree (ofDocument g data rest s w) (ofDocument g data rest s { w with notices }) := by
  unfold ofDocument
  cases ServiceCapabilities.read g.key.serviceType data with
  | error e => exact ⟨_, rfl⟩
  | ok c => exact ⟨_, rfl⟩

theorem saveDocument_notices (d : CapabilitiesDocument) (w : World) (notices : List Notice) :
    ∃ notices', RefreshJob.saveDocument d { w with notices } =
      { RefreshJob.saveDocument d w with notices := notices' } := by
  unfold RefreshJob.saveDocument World.save
  rcases w.documents.save d with ⟨e | saved, documents⟩ <;> exact ⟨_, rfl⟩

theorem agree_updateLayer (c : ServiceCapabilities) (readAt : Instant) (l : Layer)
    (s : RefreshSummary) (w : World) (notices : List Notice) :
    Agree (RefreshJob.updateLayer c readAt l s w)
      (RefreshJob.updateLayer c readAt l s { w with notices }) := by
  unfold RefreshJob.updateLayer RefreshJob.writeLayer
  rcases c.refreshed l readAt with ⟨e | updated, _⟩
  · exact ⟨_, rfl⟩
  · simp only [World.update, World.report]
    cases w.layers.update updated <;> exact ⟨_, rfl⟩

/-- Notices are given and never read. -/
theorem agree_step (p : RefreshPhase) (w : World) (notices : List Notice) :
    Agree (p.step job w) (p.step job { w with notices }) := by
  cases p with
  | starting =>
    simp only [step]
    split <;> exact ⟨_, rfl⟩
  | loading =>
    simp only [step]
    split <;> exact ⟨_, rfl⟩
  | choosing rest s => cases rest <;> exact ⟨_, rfl⟩
  | awaiting g rest s =>
    simp only [step, World.receive, World.report]
    cases (job.source g.request).result with
    | error e => exact ⟨_, rfl⟩
    | ok fetched =>
      cases job.savesDocuments
      · exact agree_ofDocument g fetched.data rest s _ _
      · exact ⟨_, rfl⟩
  | saving g draft rest s =>
    obtain ⟨notices', h⟩ := saveDocument_notices draft w notices
    simp only [step, h]
    exact agree_ofDocument g draft.data rest s _ _
  | updating c readAt layers rest s =>
    cases layers with
    | nil => exact ⟨_, rfl⟩
    | cons l ls =>
      obtain ⟨notices', h⟩ := agree_updateLayer c readAt l s w notices
      simp only [step, h]
      exact ⟨_, rfl⟩
  | finished s => exact ⟨_, rfl⟩

/-- What a step does depends on the world up to its time and its notices. -/
theorem stepAt_alike {w w' : World} (h : w.Alike w') (p : RefreshPhase) (m : Moment) :
    (stepAt job m (p, w)).1 = (stepAt job m (p, w')).1 ∧
      (stepAt job m (p, w)).2.Alike (stepAt job m (p, w')).2 := by
  obtain ⟨notices, hstep⟩ := agree_step { job with source := m.source } p { w with now := m.now }
    w'.notices
  simp only [stepAt, h.eq_with_notices, hstep]
  exact ⟨trivial, rfl, rfl, rfl, rfl⟩

theorem stepsAt_alike {w w' : World} (h : w.Alike w') (p : RefreshPhase) (ms : List Moment) :
    (stepsAt job ms (p, w)).1 = (stepsAt job ms (p, w')).1 ∧
      (stepsAt job ms (p, w)).2.Alike (stepsAt job ms (p, w')).2 := by
  induction ms generalizing p w w' with
  | nil => exact ⟨rfl, h⟩
  | cons m ms ih =>
    obtain ⟨hphase, hworld⟩ := stepAt_alike job h p m
    have hrest := ih hworld (stepAt job m (p, w)).1
    have hpair : ((stepAt job m (p, w)).1, (stepAt job m (p, w')).2) = stepAt job m (p, w') := by
      rw [hphase]
    rw [hpair] at hrest
    exact hrest

theorem stepsAt_concat (ms : List Moment) (m : Moment) (s : RefreshPhase × World) :
    stepsAt job (ms ++ [m]) s = stepAt job m (stepsAt job ms s) := by
  simp [stepsAt]

/-! ## The guard -/

/-- Whether the refresh, as far as it has come, was admitted: it has started, and it has not been
told that another one is under way. -/
def WasAdmitted : RefreshPhase → Prop
  | starting => False
  | loading => True
  | choosing _ s | awaiting _ _ s | saving _ _ _ s | updating _ _ _ _ s | finished s =>
    s.skipped = false

theorem refreshing_updateLayer (c : ServiceCapabilities) (readAt : Instant) (l : Layer)
    (s : RefreshSummary) (w : World) :
    (RefreshJob.updateLayer c readAt l s w).2.refreshing = w.refreshing ∧
      (RefreshJob.updateLayer c readAt l s w).1.skipped = s.skipped := by
  unfold RefreshJob.updateLayer RefreshJob.writeLayer
  rcases c.refreshed l readAt with ⟨e | updated, _⟩
  · exact ⟨rfl, rfl⟩
  · simp only [World.update, World.report]
    cases w.layers.update updated <;> exact ⟨rfl, rfl⟩

theorem refreshing_ofDocument (g : LayerGroup) (data : String) (rest : List LayerGroup)
    (s : RefreshSummary) (w : World) (hs : s.skipped = false) :
    (ofDocument g data rest s w).1.WasAdmitted ∧ (ofDocument g data rest s w).1.isUnderWay ∧
      (ofDocument g data rest s w).2.refreshing = w.refreshing := by
  unfold ofDocument
  cases ServiceCapabilities.read g.key.serviceType data with
  | error e => exact ⟨hs, rfl, rfl⟩
  | ok c => exact ⟨hs, rfl, rfl⟩

/-- A refresh that is under way holds the guard until it ends. -/
theorem guard_step {p : RefreshPhase} (hp : p.isUnderWay) (hadmitted : p.WasAdmitted) {w : World}
    (hw : w.refreshing = true) :
    (p.step job w).1.WasAdmitted ∧ (p.step job w).2.refreshing = (p.step job w).1.isUnderWay := by
  cases p with
  | starting => cases hp
  | loading =>
    simp only [step]
    cases w.layers.all with
    | error e => exact ⟨rfl, rfl⟩
    | ok layers => exact ⟨rfl, hw⟩
  | choosing rest s =>
    cases rest with
    | nil => exact ⟨hadmitted, rfl⟩
    | cons g rest => exact ⟨hadmitted, hw⟩
  | awaiting g rest s =>
    simp only [step, World.receive, World.report]
    cases (job.source g.request).result with
    | error e => exact ⟨hadmitted, hw⟩
    | ok fetched =>
      cases job.savesDocuments
      · obtain ⟨h, hunder, hrefreshing⟩ := refreshing_ofDocument g fetched.data rest s
          { w with notices := w.notices ++ (job.source g.request).notices } hadmitted
        exact ⟨h, hrefreshing.trans (hw.trans hunder.symm)⟩
      · exact ⟨hadmitted, hw⟩
  | saving g draft rest s =>
    obtain ⟨h, hunder, hrefreshing⟩ := refreshing_ofDocument g draft.data rest s
      (RefreshJob.saveDocument draft w) hadmitted
    refine ⟨h, hrefreshing.trans (Eq.trans ?_ hunder.symm)⟩
    rw [RefreshJob.saveDocument_eq]
    exact hw
  | updating c readAt layers rest s =>
    cases layers with
    | nil => exact ⟨hadmitted, hw⟩
    | cons l ls =>
      obtain ⟨hrefreshing, hskipped⟩ := refreshing_updateLayer c readAt l s w
      exact ⟨hskipped.trans hadmitted, hrefreshing.trans hw⟩
  | finished s => cases hp

/-- A refresh that finds no other one under way takes the guard. -/
theorem stepAt_starting_of_free {w : World} (hw : w.refreshing = false) (m : Moment) :
    stepAt job m (.starting, w) = (.loading, { w with now := m.now, refreshing := true }) := by
  simp [stepAt, step, hw]

/-- A refresh that finds another one under way ends at once. -/
theorem stepAt_starting_of_taken {w : World} (hw : w.refreshing = true) (m : Moment) :
    (stepAt job m (.starting, w)).1 = .finished { skipped := true } ∧
      (stepAt job m (.starting, w)).2.Alike w := by
  simp only [stepAt, step, hw, if_true]
  exact ⟨trivial, rfl, rfl, rfl, hw.symm⟩

theorem stepAt_finished (r : RefreshSummary) (w : World) (m : Moment) :
    (stepAt job m (.finished r, w)).1 = .finished r ∧
      (stepAt job m (.finished r, w)).2.Alike w :=
  ⟨rfl, rfl, rfl, rfl, rfl⟩

/-! ## Steps at one moment -/

theorem now_ofDocument (g : LayerGroup) (data : String) (rest : List LayerGroup)
    (s : RefreshSummary) (w : World) : (ofDocument g data rest s w).2.now = w.now := by
  unfold ofDocument
  cases ServiceCapabilities.read g.key.serviceType data <;> rfl

theorem now_updateLayer (c : ServiceCapabilities) (readAt : Instant) (l : Layer)
    (s : RefreshSummary) (w : World) :
    (RefreshJob.updateLayer c readAt l s w).2.now = w.now := by
  unfold RefreshJob.updateLayer RefreshJob.writeLayer
  rcases c.refreshed l readAt with ⟨e | updated, _⟩
  · rfl
  · simp only [World.update, World.report]
    cases w.layers.update updated <;> rfl

theorem now_step (p : RefreshPhase) (w : World) : (p.step job w).2.now = w.now := by
  cases p with
  | starting =>
    simp only [step]
    split <;> rfl
  | loading =>
    simp only [step]
    split <;> rfl
  | choosing rest s => cases rest <;> rfl
  | awaiting g rest s =>
    simp only [step, World.receive, World.report]
    cases (job.source g.request).result with
    | error e => rfl
    | ok fetched =>
      cases job.savesDocuments
      · exact now_ofDocument g fetched.data rest s _
      · rfl
  | saving g draft rest s =>
    apply (now_ofDocument g draft.data rest s _).trans
    rw [RefreshJob.saveDocument_eq]
  | updating c readAt layers rest s =>
    cases layers with
    | nil => rfl
    | cons l ls => exact now_updateLayer c readAt l s w
  | finished s => rfl

/-- Steps taken at the present moment leave what is left of a refresh as it is. -/
theorem finish_stepsAt {ms : List Moment} {w : World}
    (h : ∀ m ∈ ms, m = ⟨w.now, job.source⟩) (p : RefreshPhase) :
    finish job (stepsAt job ms (p, w)).1 (stepsAt job ms (p, w)).2 = p.finish job w ∧
      (stepsAt job ms (p, w)).2.now = w.now := by
  induction ms generalizing p w with
  | nil => exact ⟨rfl, rfl⟩
  | cons m ms ih =>
    obtain rfl := h m List.mem_cons_self
    have hnow := now_step job p w
    have hrest : ∀ m ∈ ms, m = ⟨(p.step job w).2.now, job.source⟩ := by
      intro m hm
      rw [hnow]
      exact h m (List.mem_cons_of_mem _ hm)
    obtain ⟨hfinish, hnow'⟩ := ih hrest (p.step job w).1
    exact ⟨hfinish.trans (finish_step job p w), hnow'.trans hnow⟩

/-- A call that has taken all its steps at the present moment has done what `RefreshJob.run`
does. -/
theorem run_of_stepsAt {ms : List Moment} {w : World} (h : ∀ m ∈ ms, m = ⟨w.now, job.source⟩)
    {r : RefreshSummary} (hended : (stepsAt job ms (.starting, w)).1 = .finished r) :
    job.run w = (r, (stepsAt job ms (.starting, w)).2) ∧ (job.run w).2.now = w.now := by
  obtain ⟨hfinish, hnow⟩ := finish_stepsAt job h .starting
  rw [hended] at hfinish
  have hrun : job.run w = (r, (stepsAt job ms (.starting, w)).2) := hfinish.symm
  exact ⟨hrun, by rw [hrun, hnow]⟩

end RefreshPhase

end MapServices
