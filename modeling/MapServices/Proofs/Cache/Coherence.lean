import MapServices.Proofs.Cache.Step
import MapServices.Proofs.Key

/-!
# Coherence of the cache

Calls of a cache that begins empty may overlap in any way. Their history tells what each of them
found, fetched and saved.

* `CacheCalls.Invariant` is what holds after every schedule. It ties the history to the store, to
  the requests and to the phase of each call.
* `CacheCalls.run_coherent` puts together what follows for the callers: what was saved for a key is
  found from then on, what is not found is fetched and saved once, and all documents that are
  returned for a key have one number and one time of creation.
-/

namespace MapServices

open CacheHistory

namespace CacheCalls

/-! ## The invariant of a schedule -/

variable {calls : Nat → CacheCall} {schedule : List ScheduledStep} {w : World} {s : CacheCalls}

/-- The action of the next step of a call. -/
def nextAction? (calls : Nat → CacheCall) (s : CacheCalls) (e : ScheduledStep) :
    Option CacheAction :=
  (s.phase e.1).action? e.2.source (calls e.1).layer { s.world with now := e.2.now }

theorem step_history (s : CacheCalls) (e : ScheduledStep) :
    (s.step calls e).history = s.history ++ (s.nextAction? calls e).toList.map (e.1, ·) :=
  rfl

theorem step_phase_self (s : CacheCalls) (e : ScheduledStep) :
    (s.step calls e).phase e.1 = ((s.phase e.1).step e.2.source (calls e.1).layer
      { s.world with now := e.2.now }).1 :=
  if_pos rfl

theorem step_phase_of_ne (s : CacheCalls) {e : ScheduledStep} {i : Nat} (h : i ≠ e.1) :
    (s.step calls e).phase i = s.phase i :=
  if_neg h

theorem actionsOf_step_self (s : CacheCalls) (e : ScheduledStep) :
    (s.step calls e).actionsOf e.1 = s.actionsOf e.1 ++ (s.nextAction? calls e).toList := by
  unfold actionsOf
  rw [step_history]
  cases s.nextAction? calls e <;> simp

theorem actionsOf_step_of_ne (s : CacheCalls) {e : ScheduledStep} {i : Nat} (h : i ≠ e.1) :
    (s.step calls e).actionsOf i = s.actionsOf i := by
  unfold actionsOf
  rw [step_history]
  cases s.nextAction? calls e <;> simp [Ne.symm h]

theorem mem_actionsOf {i : Nat} {a : CacheAction} : a ∈ s.actionsOf i ↔ (i, a) ∈ s.history := by
  simp [actionsOf]

/-- What holds after every schedule. -/
structure Invariant (calls : Nat → CacheCall) (schedule : List ScheduledStep) (w : World)
    (s : CacheCalls) : Prop where
  did : ∀ i, (calls i).Did (s.actionsOf i) (s.phase i)
  faithful : Faithful s.history
  documents : s.world.documents = store s.history
  requests : s.world.requests = w.requests ++ CacheHistory.requests s.history
  answers : ∀ i request answer, (i, .fetched request answer) ∈ s.history →
    ∃ m, (i, m) ∈ schedule ∧ answer = (m.source request).result
  remaining : ∀ i, (s.phase i).remaining ≤ 4 - (momentsOf schedule i).length

namespace Invariant

theorem start (hw : w.documents = {}) :
    Invariant calls [] w { world := w, phase := fun i => (calls i).start } where
  did i := (calls i).did_start
  faithful := .nil
  documents := hw
  requests := (List.append_nil _).symm
  answers i request answer h := by cases h
  remaining i := CachePhase.remaining_le _

theorem step (h : Invariant calls schedule w s) (e : ScheduledStep) :
    Invariant calls (schedule ++ [e]) w (s.step calls e) := by
  obtain ⟨hfind, hsave⟩ := refused_store s.history
  rw [← h.documents] at hfind hsave
  obtain ⟨hdocuments, hrequests⟩ := CachePhase.world_step (p := s.phase e.1)
    (w := { s.world with now := e.2.now }) e.2.source (calls e.1).layer hsave
  refine ⟨?_, ?_, ?_, ?_, ?_, ?_⟩
  · intro i
    by_cases hi : i = e.1
    · rw [hi, actionsOf_step_self, step_phase_self]
      exact CachePhase.did_step (w := { s.world with now := e.2.now }) (h.did e.1) e.2.source hfind
        hsave
    · rw [actionsOf_step_of_ne s hi, step_phase_of_ne s hi]
      exact h.did i
  · rw [step_history]
    cases ha : s.nextAction? calls e with
    | none => simpa using h.faithful
    | some a =>
      apply h.faithful.concat
      rw [← h.documents]
      exact CachePhase.isTrueOf_action? ha
  · rw [step_history, store_append, List.foldl_map, ← h.documents]
    exact hdocuments
  · rw [step_history, CacheHistory.requests, List.filterMap_append, List.filterMap_map,
      ← List.append_assoc]
    apply hrequests.trans
    rw [h.requests]
    rfl
  · intro i request answer hmem
    rw [step_history, List.mem_append] at hmem
    rcases hmem with hold | hnew
    · obtain ⟨m, hm, hanswer⟩ := h.answers i request answer hold
      exact ⟨m, List.mem_append_left _ hm, hanswer⟩
    · simp only [List.mem_map, Option.mem_toList, Prod.mk.injEq] at hnew
      obtain ⟨a, ha, rfl, rfl⟩ := hnew
      exact ⟨e.2, by simp, CachePhase.answer_action? ha⟩
  · intro i
    have hold := h.remaining i
    by_cases hi : i = e.1
    · subst hi
      have hstep := CachePhase.remaining_step (s.phase e.1) e.2.source (calls e.1).layer
        { s.world with now := e.2.now }
      have hlength : (momentsOf (schedule ++ [e]) e.1).length =
          (momentsOf schedule e.1).length + 1 := by
        simp [momentsOf]
      rw [step_phase_self, hlength]
      omega
    · have hlength : momentsOf (schedule ++ [e]) i = momentsOf schedule i := by
        simp [momentsOf, Ne.symm hi]
      rw [step_phase_of_ne s hi, hlength]
      exact hold

end Invariant

theorem run_concat (w : World) (schedule : List ScheduledStep) (e : ScheduledStep) :
    run calls w (schedule ++ [e]) = (run calls w schedule).step calls e :=
  List.foldl_append

theorem invariant_run (hw : w.documents = {}) (schedule : List ScheduledStep) :
    Invariant calls schedule w (run calls w schedule) := by
  induction schedule using List.reverseRecOn with
  | nil => exact Invariant.start hw
  | append_singleton schedule e ih =>
    rw [run_concat]
    exact ih.step e

/-! ## What follows for the callers -/

/-- The call for a layer made one request and then, if it was answered, saved what it got under the
key of the layer and returned the stored copy. If it was refused, it returned the error. -/
inductive FetchedOnce (l : Layer) :
    List CacheAction → Except ServiceError CapabilitiesDocument → Prop where
  | refused (e : ServiceError) : FetchedOnce l [.fetched (.ofLayer l) (.error e)] (.error e)
  | saved (fetched : FetchedCapabilities) (d stored : CapabilitiesDocument)
      (key : d.key = .ofLayer l) (data : d.data = fetched.data)
      (copy : stored.key = d.key ∧ stored.data = d.data) :
      FetchedOnce l [.fetched (.ofLayer l) (.ok fetched), .saved d stored] (.ok stored)

/-- What the callers of a cache can rely on, when their calls have come as far as a schedule lets
them. -/
structure Coherent (calls : Nat → CacheCall) (schedule : List ScheduledStep) (w : World)
    (s : CacheCalls) : Prop where
  /-- The history holds all requests that were sent. -/
  requests : s.world.requests = w.requests ++ CacheHistory.requests s.history
  /-- The history holds all that was done to the store. -/
  documents : s.world.documents = store s.history
  /-- What is told about answers is what the source said at the time. -/
  answers : ∀ i request answer, (i, .fetched request answer) ∈ s.history →
    ∃ m, (i, m) ∈ schedule ∧ answer = (m.source request).result
  /-- An unforced call that has ended has looked into the store. -/
  looked : ∀ i l r, calls i = .get l false → s.phase i = .finished r →
    ∃ before result after, s.history = before ++ (i, .found (.ofLayer l) result) :: after
  /-- When a document was saved before, the call returns the latest one and does nothing else. -/
  hit : ∀ i l before result after d, calls i = .get l false →
    s.history = before ++ (i, .found (.ofLayer l) result) :: after →
    latest? (.ofLayer l) before = some d →
      s.phase i = .finished (.ok d) ∧ s.actionsOf i = [.found (.ofLayer l) (some d)]
  /-- When no document was saved before, the call fetches it. -/
  miss : ∀ i l before result after r, calls i = .get l false → (calls i).key.IsStable →
    s.history = before ++ (i, .found (.ofLayer l) result) :: after →
    latest? (.ofLayer l) before = none → s.phase i = .finished r →
      ∃ as, s.actionsOf i = .found (.ofLayer l) none :: as ∧ FetchedOnce l as r
  /-- A forced call fetches the document without looking. -/
  forced : ∀ i l r, calls i = .get l true → (calls i).key.IsStable → s.phase i = .finished r →
    FetchedOnce l (s.actionsOf i) r
  /-- What was fetched elsewhere is saved once. -/
  saved : ∀ i l data r, calls i = .save l data → (calls i).key.IsStable →
    s.phase i = .finished r → ∃ d stored, s.actionsOf i = [.saved d stored] ∧
      d.key = .ofLayer l ∧ d.data = data ∧ r = .ok stored
  /-- The stored copy has the number and the time of creation of the document that it replaces. -/
  copies : ∀ before i d stored after, s.history = before ++ (i, .saved d stored) :: after →
    stored = (store before).stored d
  /-- All documents that were returned for one key are of one origin. -/
  origin : ∀ i j d d', (calls i).key = (calls j).key → (calls i).key.IsStable →
    s.phase i = .finished (.ok d) → s.phase j = .finished (.ok d') →
      d.isSaved ∧ d.id = d'.id ∧ d.createdAt = d'.createdAt
  /-- A call ends with its fourth step at the latest. -/
  ends : ∀ i, 4 ≤ (momentsOf schedule i).length → ∃ r, s.phase i = .finished r

namespace Invariant

variable {i : Nat} {l : Layer} {r : Except ServiceError CapabilitiesDocument}

theorem looked (h : Invariant calls schedule w s) (hcall : calls i = .get l false)
    (hr : s.phase i = .finished r) :
    ∃ before result after, s.history = before ++ (i, .found (.ofLayer l) result) :: after := by
  have hdid := h.did i
  have hmem : ∃ result, .found (.ofLayer l) result ∈ s.actionsOf i := by
    rw [hcall, hr] at hdid
    rcases hdid with ⟨l', d, hl, has, -⟩ | ⟨l', force, e, hl, has, -⟩ |
      ⟨before, data, now, stored, htext, has, -⟩
    · cases hl
      exact ⟨some d, by simp [has]⟩
    · cases hl
      exact ⟨none, by simp [has, CacheCall.lookups]⟩
    · obtain ⟨fetched, -, hbefore⟩ := htext
      exact ⟨none, by simp [has, hbefore, CacheCall.lookups]⟩
  obtain ⟨result, hresult⟩ := hmem
  obtain ⟨before, after, hsplit⟩ := List.append_of_mem (mem_actionsOf.1 hresult)
  exact ⟨before, result, after, hsplit⟩

/-- What a look into the store finds is what was saved last. -/
theorem found_eq (h : Invariant calls schedule w s) {before after : List (Nat × CacheAction)}
    {k : ServiceKey} {result : Option CapabilitiesDocument}
    (hsplit : s.history = before ++ (i, .found k result) :: after) :
    result = latest? k before := by
  have hresult : result = (store before).find? k := h.faithful before i _ after hsplit
  have hbefore : Faithful before := by
    intro front j a back hfront
    exact h.faithful front j a (back ++ (i, .found k result) :: after) (by simp [hsplit, hfront])
  rw [hresult, find?_store hbefore]

theorem hit (h : Invariant calls schedule w s) (hcall : calls i = .get l false)
    {before after : List (Nat × CacheAction)} {result : Option CapabilitiesDocument}
    (hsplit : s.history = before ++ (i, .found (.ofLayer l) result) :: after)
    {d : CapabilitiesDocument} (hlatest : latest? (.ofLayer l) before = some d) :
    s.phase i = .finished (.ok d) ∧ s.actionsOf i = [.found (.ofLayer l) (some d)] := by
  have hmem : .found (.ofLayer l) (some d) ∈ s.actionsOf i := by
    rw [mem_actionsOf, hsplit, h.found_eq hsplit, hlatest]
    simp
  have hdid := h.did i
  rw [hcall] at hdid
  cases hphase : s.phase i with
  | finding =>
    rw [hphase] at hdid
    obtain ⟨-, has⟩ := hdid
    simp [has] at hmem
  | fetching =>
    rw [hphase] at hdid
    obtain ⟨-, has⟩ := hdid
    simp [has, CacheCall.lookups] at hmem
  | drafting data =>
    rw [hphase] at hdid
    obtain ⟨fetched, -, has⟩ := hdid
    simp [has, CacheCall.lookups] at hmem
  | saving draft =>
    rw [hphase] at hdid
    obtain ⟨⟨fetched, -, has⟩, -⟩ := hdid
    simp [has, CacheCall.lookups] at hmem
  | finished r =>
    rw [hphase] at hdid
    rcases hdid with ⟨l', d', hl, has, rfl⟩ | ⟨l', force, e, hl, has, rfl⟩ |
      ⟨before', data, now, stored, ⟨fetched, -, hbefore⟩, has, rfl⟩
    · cases hl
      simp only [has, List.mem_singleton, CacheAction.found.injEq, Option.some.injEq,
        true_and] at hmem
      subst hmem
      exact ⟨rfl, has⟩
    · simp [has, CacheCall.lookups] at hmem
    · simp [has, hbefore, CacheCall.lookups] at hmem

/-- The copy that the store keeps differs in number and time of creation only. -/
theorem copy_eq (h : Invariant calls schedule w s) {d stored : CapabilitiesDocument}
    (hmem : .saved d stored ∈ s.actionsOf i) : stored.key = d.key ∧ stored.data = d.data := by
  obtain ⟨before, after, hsplit⟩ := List.append_of_mem (mem_actionsOf.1 hmem)
  have hstored : stored = (store before).stored d := h.faithful before i _ after hsplit
  rw [hstored, DocumentStore.stored]
  cases (store before).find? d.key <;> exact ⟨rfl, rfl⟩

/-- A call that has ended has found a document and done nothing else, or it has found none. -/
theorem hit_or_miss (h : Invariant calls schedule w s) (hr : s.phase i = .finished r) :
    (∃ l d, calls i = .get l false ∧ s.actionsOf i = [.found (.ofLayer l) (some d)]) ∨
      ∀ k d, .found k (some d) ∉ s.actionsOf i := by
  have hlookups : ∀ k d, .found k (some d) ∉ (calls i).lookups := by
    intro k d
    rcases calls i with ⟨l, force | force⟩ | ⟨l, data⟩ <;> simp [CacheCall.lookups]
  have hdid := h.did i
  rw [hr] at hdid
  rcases hdid with ⟨l, d, hl, has, -⟩ | ⟨l, force, e, hl, has, -⟩ |
    ⟨before, data, now, stored, htext, has, -⟩
  · exact Or.inl ⟨l, d, hl, has⟩
  · apply Or.inr
    intro k d
    simpa [has] using hlookups k d
  · apply Or.inr
    intro k d
    unfold CacheCall.HasText at htext
    split at htext
    · obtain ⟨fetched, -, hbefore⟩ := htext
      simpa [has, hbefore] using hlookups k d
    · simp [has, htext.2]

/-- A call that has ended without finding a document has fetched it. -/
theorem fetchedOnce (h : Invariant calls schedule w s) {force : Bool}
    (hcall : calls i = .get l force) (hkey : (calls i).key.IsStable)
    (hr : s.phase i = .finished r)
    (hmiss : ∀ k d, .found k (some d) ∉ s.actionsOf i) :
    ∃ as, s.actionsOf i = (calls i).lookups ++ as ∧ FetchedOnce l as r := by
  have hdid := h.did i
  have hstable : ∀ data now, (CapabilitiesDocument.ofKey (calls i).key data now).key =
      .ofLayer l := by
    intro data now
    rw [CapabilitiesDocument.key_ofKey hkey (ServiceKey.normalizeVersion_ofParts ..), hcall]
    rfl
  rw [hr] at hdid
  rcases hdid with ⟨l', d, hl, has, -⟩ | ⟨l', force', e, hl, has, rfl⟩ |
    ⟨before, data, now, stored, htext, has, rfl⟩
  · rw [hcall] at hl
    cases hl
    exact absurd (by simp [has]) (hmiss (.ofLayer l) d)
  · rw [hcall] at hl
    cases hl
    exact ⟨_, has, .refused e⟩
  · have htext' := htext
    rw [hcall] at htext'
    obtain ⟨fetched, hdata, hbefore⟩ := htext'
    rw [← hcall] at hbefore
    have hmem : .saved (.ofKey (calls i).key data now) stored ∈ s.actionsOf i := by simp [has]
    refine ⟨_, by rw [has, hbefore, List.append_assoc], ?_⟩
    exact .saved fetched _ stored (hstable data now) hdata.symm (h.copy_eq hmem)

theorem saved (h : Invariant calls schedule w s) {data : String} (hcall : calls i = .save l data)
    (hkey : (calls i).key.IsStable) (hr : s.phase i = .finished r) :
    ∃ d stored, s.actionsOf i = [.saved d stored] ∧ d.key = .ofLayer l ∧ d.data = data ∧
      r = .ok stored := by
  have hdid := h.did i
  rw [hr] at hdid
  rcases hdid with ⟨l', d, hl, -⟩ | ⟨l', force, e, hl, -⟩ |
    ⟨before, text, now, stored, htext, has, rfl⟩
  · rw [hcall] at hl
    cases hl
  · rw [hcall] at hl
    cases hl
  · rw [hcall] at htext
    obtain ⟨rfl, rfl⟩ := htext
    refine ⟨_, stored, has, ?_, rfl, rfl⟩
    rw [CapabilitiesDocument.key_ofKey hkey (ServiceKey.normalizeVersion_ofParts ..), hcall]
    rfl

/-- A document that was returned is, up to later saves, in the store. -/
theorem origin_of_finished (h : Invariant calls schedule w s) {d : CapabilitiesDocument}
    (hkey : (calls i).key.IsStable) (hd : s.phase i = .finished (.ok d)) :
    ∃ d', (store s.history).find? (calls i).key = some d' ∧ SameOrigin d d' := by
  have hdid := h.did i
  rw [hd] at hdid
  rcases hdid with ⟨l, d', hl, has, hok⟩ | ⟨l, force, e, hl, -, hok⟩ |
    ⟨before, data, now, stored, -, has, hok⟩
  · cases hok
    have hmem : .found (.ofLayer l) (some d) ∈ s.actionsOf i := by simp [has]
    obtain ⟨before, after, hsplit⟩ := List.append_of_mem (mem_actionsOf.1 hmem)
    have hfound : some d = (store before).find? (.ofLayer l) :=
      h.faithful before i _ after hsplit
    rw [hsplit, hl]
    exact find?_store_append hfound.symm _
  · cases hok
  · cases hok
    have hmem : .saved (.ofKey (calls i).key data now) d ∈ s.actionsOf i := by simp [has]
    obtain ⟨before', after, hsplit⟩ := List.append_of_mem (mem_actionsOf.1 hmem)
    have hstored : d = (store before').stored _ := h.faithful before' i _ after hsplit
    have hafter : s.history = (before' ++ [(i, .saved (.ofKey (calls i).key data now) d)]) ++
        after := by
      simp [hsplit]
    rw [hafter]
    refine find?_store_append ?_ after
    rw [store_concat, CacheAction.applyTo, DocumentStore.find?_put, if_pos, ← hstored]
    exact (CapabilitiesDocument.key_ofKey hkey (ServiceKey.normalizeVersion_ofParts ..) ..).symm

theorem origin (h : Invariant calls schedule w s) {j : Nat} {d d' : CapabilitiesDocument}
    (heq : (calls i).key = (calls j).key) (hkey : (calls i).key.IsStable)
    (hd : s.phase i = .finished (.ok d)) (hd' : s.phase j = .finished (.ok d')) :
    d.isSaved ∧ d.id = d'.id ∧ d.createdAt = d'.createdAt := by
  obtain ⟨x, hx, hid, hcreated⟩ := h.origin_of_finished hkey hd
  obtain ⟨x', hx', hid', hcreated'⟩ := h.origin_of_finished (heq ▸ hkey) hd'
  have hsaved := isSaved_of_find? hx
  rw [heq, hx'] at hx
  cases hx
  refine ⟨?_, hid.trans hid'.symm, hcreated.trans hcreated'.symm⟩
  rw [CapabilitiesDocument.isSaved, hid]
  exact hsaved

end Invariant

/-- Whatever the order in which overlapping calls of a cache take their steps, what was saved is
found from then on, what is not found is fetched and saved once, and all that is returned for a key
is of one origin. -/
theorem run_coherent (calls : Nat → CacheCall) {w : World} (hw : w.documents = {})
    (schedule : List ScheduledStep) : Coherent calls schedule w (run calls w schedule) := by
  have h : Invariant calls schedule w (run calls w schedule) := invariant_run hw schedule
  refine ⟨h.requests, h.documents, h.answers, ?_, ?_, ?_, ?_, ?_, ?_, ?_, ?_⟩
  · intro i l r hcall hr
    exact h.looked hcall hr
  · intro i l before result after d hcall hsplit hlatest
    exact h.hit hcall hsplit hlatest
  · intro i l before result after r hcall hkey hsplit hlatest hr
    have hnone : result = none := (h.found_eq hsplit).trans hlatest
    have hmem : .found (.ofLayer l) none ∈ (run calls w schedule).actionsOf i := by
      rw [mem_actionsOf, hsplit, hnone]
      simp
    rcases h.hit_or_miss hr with ⟨l', d, -, has⟩ | hmiss
    · simp [has] at hmem
    · have hfetched := h.fetchedOnce hcall hkey hr hmiss
      rw [hcall] at hfetched
      exact hfetched
  · intro i l r hcall hkey hr
    rcases h.hit_or_miss hr with ⟨l', d, hl, -⟩ | hmiss
    · rw [hcall] at hl
      cases hl
    · obtain ⟨as, has, hfetched⟩ := h.fetchedOnce hcall hkey hr hmiss
      rw [hcall] at has
      exact has ▸ hfetched
  · intro i l data r hcall hkey hr
    exact h.saved hcall hkey hr
  · intro before i d stored after hsplit
    exact h.faithful before i _ after hsplit
  · intro i j d d' heq hkey hd hd'
    exact h.origin heq hkey hd hd'
  · intro i hlength
    have hremaining := h.remaining i
    cases hphase : (run calls w schedule).phase i with
    | finished r => exact ⟨r, rfl⟩
    | finding | fetching | drafting | saving =>
      rw [hphase] at hremaining
      simp only [CachePhase.remaining] at hremaining
      omega

/-- Two calls that both look before either of them has saved, a forced one, one that saves, and one
that comes last. -/
def racingCalls : Nat → CacheCall
  | 2 => .get (Cache.unnamedLayer "maps?" .wms none none) true
  | 3 => .save (Cache.unnamedLayer " maps" .wms (some " ") none) "<c/>"
  | _ => .get (Cache.unnamedLayer "maps" .wms none none) false

def racingSchedule : List ScheduledStep :=
  [0, 1, 0, 1, 0, 1, 1, 0, 2, 3, 2, 3, 2, 4].zipIdx.map fun (i, t) =>
    (i, ⟨⟨t, 0⟩, fun request => { result := .ok ⟨request.address, "UTF-8", "<a/>"⟩ }⟩)

/-- Three of the calls fetch the document, which is saved four times under one key. -/
theorem run_coherent_racing :
    ({} : World).documents = {} ∧
      (run racingCalls {} racingSchedule).world.requests.length = 3 ∧
      (run racingCalls {} racingSchedule).world.documents.writes = 4 ∧
      Coherent racingCalls racingSchedule {} (run racingCalls {} racingSchedule) :=
  ⟨rfl, by decide +kernel, by decide +kernel, run_coherent racingCalls rfl racingSchedule⟩

end CacheCalls

end MapServices
