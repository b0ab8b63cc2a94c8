import MapServices.Proofs.Cache.History

/-!
# What a call of the cache does

`CacheCall.Did` says which actions have brought a call to its present phase.

* `did_step`: each step takes the call on.
* `world_step`: a step changes the documents and the requests as its action says.
* `isTrueOf_action?`: the action of a step tells what the store held.
* `remaining_step`: a call has ended after four steps at the latest.
* `CacheCalls.run_uninterrupted`: a call that is not interrupted does what `getCapabilities` or
  `saveFetched` does.
-/

namespace MapServices

namespace CacheCall

variable {c : CacheCall} {as : List CacheAction}

/-- What a call has done before it turns to the source: unless it is forced, it has looked into the
store in vain. -/
def lookups : CacheCall → List CacheAction
  | get l false => [.found (.ofLayer l) none]
  | get _ true | save _ _ => []

/-- The call has done this when it has got a text. -/
def HasText (c : CacheCall) (data : String) (as : List CacheAction) : Prop :=
  match c with
  | get l _ => ∃ fetched, fetched.data = data ∧
      as = c.lookups ++ [.fetched (.ofLayer l) (.ok fetched)]
  | save _ text => data = text ∧ as = []

/-- The call has done this when it has come to a phase. -/
def Did (c : CacheCall) (as : List CacheAction) : CachePhase → Prop
  | .finding => (∃ l, c = get l false) ∧ as = []
  | .fetching => (∃ l force, c = get l force) ∧ as = c.lookups
  | .drafting data => c.HasText data as
  | .saving d => c.HasText d.data as ∧ ∃ now, d = .ofKey c.key d.data now
  | .finished r =>
    (∃ l d, c = get l false ∧ as = [.found (.ofLayer l) (some d)] ∧ r = .ok d) ∨
    (∃ l force e, c = get l force ∧ as = c.lookups ++ [.fetched (.ofLayer l) (.error e)] ∧
      r = .error e) ∨
    ∃ before data now stored, c.HasText data before ∧
      as = before ++ [.saved (.ofKey c.key data now) stored] ∧ r = .ok stored

theorem did_start (c : CacheCall) : c.Did [] c.start := by
  cases c with
  | get l force =>
    cases force with
    | false => exact ⟨⟨l, rfl⟩, rfl⟩
    | true => exact ⟨⟨l, true, rfl⟩, rfl⟩
  | save l data => exact ⟨rfl, rfl⟩

end CacheCall

namespace CachePhase

variable {c : CacheCall} {as : List CacheAction} {p : CachePhase} {w : World}

/-- A step takes a call on, if the store refuses nothing. -/
theorem did_step (h : c.Did as p) (source : Source) (hfind : w.documents.findRefused = false)
    (hsave : w.documents.saveRefused = false) :
    c.Did (as ++ (p.action? source c.layer w).toList) (p.step source c.layer w).1 := by
  cases p with
  | finding =>
    obtain ⟨⟨l, rfl⟩, rfl⟩ := h
    simp only [step, action?, DocumentStore.find, hfind, CacheCall.layer, Bool.false_eq_true,
      if_false]
    cases w.documents.find? (.ofLayer l) with
    | none => exact ⟨⟨l, false, rfl⟩, rfl⟩
    | some d => exact Or.inl ⟨l, d, rfl, rfl, rfl⟩
  | fetching =>
    obtain ⟨⟨l, force, rfl⟩, rfl⟩ := h
    simp only [step, action?, World.fetch, World.receive, CacheCall.layer]
    cases (source (.ofLayer l)).result with
    | error e => exact Or.inr (Or.inl ⟨l, force, e, rfl, rfl, rfl⟩)
    | ok fetched => exact ⟨fetched, rfl, rfl⟩
  | drafting data =>
    simp only [action?, Option.toList_none, List.append_nil]
    exact ⟨h, w.now, rfl⟩
  | saving d =>
    obtain ⟨htext, now, hd⟩ := h
    simp only [step, action?, World.save, DocumentStore.save, hsave, Bool.false_eq_true, if_false]
    refine Or.inr (Or.inr ⟨as, d.data, now, w.documents.stored d, htext, ?_, rfl⟩)
    rw [← hd]
    rfl
  | finished r => simpa [action?, step] using h

/-- A step changes the documents and the requests as its action says. -/
theorem world_step (source : Source) (l : Layer) (hsave : w.documents.saveRefused = false) :
    (p.step source l w).2.documents =
        (p.action? source l w).toList.foldl CacheAction.applyTo w.documents ∧
      (p.step source l w).2.requests =
        w.requests ++ (p.action? source l w).toList.filterMap CacheAction.request? := by
  cases p with
  | finding =>
    simp only [step, action?]
    rcases w.documents.find (.ofLayer l) with e | _ | d <;>
      simp [CacheAction.applyTo, CacheAction.request?]
  | fetching =>
    simp only [step, action?, World.fetch, World.receive, World.send, World.report]
    cases (source (.ofLayer l)).result <;> simp [CacheAction.applyTo, CacheAction.request?]
  | drafting data => simp [step, action?]
  | saving d =>
    simp [step, action?, World.save, DocumentStore.save, hsave, CacheAction.applyTo,
      CacheAction.request?]
  | finished r => simp [step, action?]

/-- The action of a step tells what is so of the store. -/
theorem isTrueOf_action? {source : Source} {l : Layer} {a : CacheAction}
    (ha : p.action? source l w = some a) : a.IsTrueOf w.documents := by
  cases p with
  | finding =>
    simp only [action?, DocumentStore.find] at ha
    split at ha
    · rename_i hresult
      split at hresult
      · cases hresult
      · cases hresult
        cases ha
        rfl
    · cases ha
  | fetching =>
    cases ha
    trivial
  | drafting data => cases ha
  | saving d =>
    simp only [action?, DocumentStore.save] at ha
    split at ha
    · rename_i hresult
      split at hresult
      · cases hresult
      · cases hresult
        cases ha
        rfl
    · cases ha
  | finished r => cases ha

/-- A request is answered by the source of the step. -/
theorem answer_action? {source : Source} {l : Layer} {request : FetchRequest}
    {answer : Except ServiceError FetchedCapabilities}
    (ha : p.action? source l w = some (.fetched request answer)) :
    answer = (source request).result := by
  cases p with
  | finding =>
    simp only [action?] at ha
    split at ha <;> cases ha
  | fetching =>
    cases ha
    rfl
  | drafting data => cases ha
  | saving d =>
    simp only [action?] at ha
    split at ha <;> cases ha
  | finished r => cases ha

/-- How many more steps a call may take. -/
def remaining : CachePhase → Nat
  | finding => 4
  | fetching => 3
  | drafting _ => 2
  | saving _ => 1
  | finished _ => 0

theorem remaining_step (p : CachePhase) (source : Source) (l : Layer) (w : World) :
    (p.step source l w).1.remaining ≤ p.remaining - 1 := by
  cases p with
  | finding =>
    simp only [step]
    rcases w.documents.find (.ofLayer l) with e | _ | d <;> simp [remaining]
  | fetching =>
    simp only [step]
    rcases w.fetch source (.ofLayer l) with ⟨e | fetched, w'⟩ <;> simp [remaining]
  | drafting data => simp [step, remaining]
  | saving d => simp [step, remaining]
  | finished r => simp [step, remaining]

theorem remaining_le (p : CachePhase) : p.remaining ≤ 4 := by
  cases p <;> simp [remaining]

theorem now_step (p : CachePhase) (source : Source) (l : Layer) (w : World) :
    (p.step source l w).2.now = w.now := by
  cases p with
  | finding =>
    simp only [step]
    rcases w.documents.find (.ofLayer l) with e | _ | d <;> rfl
  | fetching =>
    simp only [step, World.fetch, World.receive]
    cases (source (.ofLayer l)).result <;> rfl
  | drafting data => rfl
  | saving d => rfl
  | finished r => rfl

end CachePhase

/-! ### Calls that are not interrupted -/

/-- What a call does if nothing else happens meanwhile. -/
def CacheCall.perform (source : Source) (w : World) :
    CacheCall → Except ServiceError CapabilitiesDocument × World
  | get l force => Cache.getCapabilities source l force w
  | save l data => Cache.saveFetched l data w

theorem CacheCall.finish_start (c : CacheCall) (source : Source) (w : World) :
    c.start.finish source c.layer w = c.perform source w := by
  cases c with
  | get l force => exact CachePhase.finish_start source l force w
  | save l data => rfl

namespace CacheCalls

/-- A step at the present moment is a step of the one call in the world as it is. -/
theorem step_present (calls : Nat → CacheCall) (source : Source) (i : Nat) (s : CacheCalls) :
    (step calls s (i, ⟨s.world.now, source⟩)).phase i =
        ((s.phase i).step source (calls i).layer s.world).1 ∧
      (step calls s (i, ⟨s.world.now, source⟩)).world =
        ((s.phase i).step source (calls i).layer s.world).2 := by
  simp [step]

/-- Steps that one call takes at the present moment leave what is left of the call as it is. -/
theorem finish_foldl_step (calls : Nat → CacheCall) (source : Source) (i n : Nat)
    (s : CacheCalls) :
    let s' := (List.replicate n (i, ⟨s.world.now, source⟩)).foldl (step calls) s
    (s'.phase i).finish source (calls i).layer s'.world =
        (s.phase i).finish source (calls i).layer s.world ∧
      (s'.phase i).remaining ≤ (s.phase i).remaining - n := by
  induction n generalizing s with
  | zero => exact ⟨rfl, Nat.le_refl _⟩
  | succ n ih =>
    have hone := CachePhase.remaining_step (s.phase i) source (calls i).layer s.world
    have hnow := CachePhase.now_step (s.phase i) source (calls i).layer s.world
    have hfinish := CachePhase.finish_step source (calls i).layer (s.phase i) s.world
    obtain ⟨hphase, hworld⟩ := step_present calls source i s
    rw [← hphase] at hone
    rw [← hworld] at hnow
    rw [← hphase, ← hworld] at hfinish
    obtain ⟨hrest, hremaining⟩ := ih (step calls s (i, ⟨s.world.now, source⟩))
    rw [hnow] at hrest hremaining
    exact ⟨hrest.trans hfinish, Nat.le_trans hremaining (by omega)⟩

/-- A call that takes all its steps at one moment, while no other call takes any, has ended and has
done what it does without interruption. -/
theorem run_uninterrupted (calls : Nat → CacheCall) (source : Source) (w : World) (i : Nat) :
    let s := run calls w (List.replicate 4 (i, ⟨w.now, source⟩))
    s.phase i = .finished ((calls i).perform source w).1 ∧
      s.world = ((calls i).perform source w).2 := by
  intro s
  obtain ⟨hfinish, hremaining⟩ := finish_foldl_step calls source i 4
    { world := w, phase := fun i => (calls i).start }
  rw [CacheCall.finish_start] at hfinish
  have hended : (s.phase i).remaining ≤ 4 - 4 :=
    Nat.le_trans hremaining (Nat.sub_le_sub_right (CachePhase.remaining_le _) 4)
  change (s.phase i).finish source (calls i).layer s.world = _ at hfinish
  cases hphase : s.phase i with
  | finished r =>
    rw [hphase] at hfinish
    rw [← hfinish]
    exact ⟨rfl, rfl⟩
  | finding | fetching | drafting | saving =>
    rw [hphase, CachePhase.remaining] at hended
    omega

end CacheCalls

end MapServices
