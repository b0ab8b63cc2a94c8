import MapServices.Cache.Calls
import Mathlib.Data.List.Induction

/-!
# What the history of a cache amounts to

* `find?_store`: the store holds, for each key, the document that was saved last under that key.
* `find?_store_append`: a document that is stored keeps its number and its time of creation.
* `isSaved_of_find?`: a stored document has a number.
-/

namespace MapServices

namespace CacheAction

/-- The store after an action. -/
def applyTo (s : DocumentStore) : CacheAction → DocumentStore
  | saved d _ => s.put d
  | found _ _ | fetched _ _ => s

/-- The request that an action sends. -/
def request? : CacheAction → Option FetchRequest
  | fetched request _ => some request
  | found _ _ | saved _ _ => none

/-- What the store kept of a document that an action saved under a key. -/
def storedUnder? (k : ServiceKey) : CacheAction → Option CapabilitiesDocument
  | saved d stored => if d.key = k then some stored else none
  | found _ _ | fetched _ _ => none

/-- What the action tells about a store is so. -/
def IsTrueOf (s : DocumentStore) : CacheAction → Prop
  | found k result => result = s.find? k
  | saved d stored => stored = s.stored d
  | fetched _ _ => True

end CacheAction

namespace CacheHistory

/-- The store that a history leaves, when it begins with an empty one. -/
def store (history : List (Nat × CacheAction)) : DocumentStore :=
  history.foldl (fun s e => e.2.applyTo s) {}

/-- What the store kept of the last document that was saved under a key. -/
def latest? (k : ServiceKey) (history : List (Nat × CacheAction)) : Option CapabilitiesDocument :=
  (history.filterMap fun e => e.2.storedUnder? k).getLast?

/-- The requests of a history, the oldest first. -/
def requests (history : List (Nat × CacheAction)) : List FetchRequest :=
  history.filterMap fun e => e.2.request?

/-- Each action tells what is so of the store at its time. -/
def Faithful (history : List (Nat × CacheAction)) : Prop :=
  ∀ before i a after, history = before ++ (i, a) :: after → a.IsTrueOf (store before)

variable {history : List (Nat × CacheAction)} {i : Nat} {a : CacheAction}

theorem store_append (history history' : List (Nat × CacheAction)) :
    store (history ++ history') = history'.foldl (fun s e => e.2.applyTo s) (store history) :=
  List.foldl_append

theorem store_concat (history : List (Nat × CacheAction)) (i : Nat) (a : CacheAction) :
    store (history ++ [(i, a)]) = a.applyTo (store history) :=
  store_append history [(i, a)]

theorem refused_applyTo (s : DocumentStore) (a : CacheAction) :
    (a.applyTo s).findRefused = s.findRefused ∧ (a.applyTo s).saveRefused = s.saveRefused := by
  cases a <;> exact ⟨rfl, rfl⟩

/-- The store refuses nothing. -/
theorem refused_store (history : List (Nat × CacheAction)) :
    (store history).findRefused = false ∧ (store history).saveRefused = false := by
  induction history using List.reverseRecOn with
  | nil => exact ⟨rfl, rfl⟩
  | append_singleton history e ih =>
    obtain ⟨hfind, hsave⟩ := refused_applyTo (store history) e.2
    rw [store_concat history e.1 e.2, hfind, hsave]
    exact ih

theorem Faithful.nil : Faithful [] := by
  intro before i a after h
  simp at h

theorem Faithful.concat (h : Faithful history) (ha : a.IsTrueOf (store history)) :
    Faithful (history ++ [(i, a)]) := by
  intro before j b after hsplit
  rcases List.eq_nil_or_concat after with rfl | ⟨after, e, rfl⟩
  · obtain ⟨rfl, hlast⟩ := List.append_inj' hsplit rfl
    cases List.singleton_inj.1 hlast
    exact ha
  · rw [List.concat_eq_append, ← List.cons_append, ← List.append_assoc] at hsplit
    exact h before j b after (List.append_inj' hsplit rfl).1

theorem Faithful.of_concat (h : Faithful (history ++ [(i, a)])) :
    Faithful history ∧ a.IsTrueOf (store history) := by
  refine ⟨?_, h history i a [] rfl⟩
  intro before j b after hsplit
  exact h before j b (after ++ [(i, a)]) (by simp [hsplit])

theorem latest?_concat (k : ServiceKey) (history : List (Nat × CacheAction)) (i : Nat)
    (a : CacheAction) :
    latest? k (history ++ [(i, a)]) = (a.storedUnder? k).or (latest? k history) := by
  unfold latest?
  rw [List.filterMap_append]
  cases h : a.storedUnder? k with
  | none => simp [h]
  | some d => simp [h]

/-- The store holds the document that was saved last. -/
theorem find?_store (h : Faithful history) (k : ServiceKey) :
    (store history).find? k = latest? k history := by
  induction history using List.reverseRecOn with
  | nil => rfl
  | append_singleton history e ih =>
    obtain ⟨i, a⟩ := e
    obtain ⟨hhistory, ha⟩ := h.of_concat
    rw [store_concat, latest?_concat, ← ih hhistory]
    cases a with
    | found => rfl
    | fetched => rfl
    | saved d stored =>
      have hstored : stored = (store history).stored d := ha
      simp only [CacheAction.applyTo, CacheAction.storedUnder?, DocumentStore.find?_put, hstored,
        eq_comm (a := k)]
      split <;> rfl

/-! ## The number and the time of creation -/

/-- The same number and the same time of creation. -/
def SameOrigin (d d' : CapabilitiesDocument) : Prop := d.id = d'.id ∧ d.createdAt = d'.createdAt

theorem sameOrigin_applyTo {s : DocumentStore} {k : ServiceKey} {d : CapabilitiesDocument}
    (h : s.find? k = some d) (a : CacheAction) :
    ∃ d', (a.applyTo s).find? k = some d' ∧ SameOrigin d d' := by
  cases a with
  | found => exact ⟨d, h, rfl, rfl⟩
  | fetched => exact ⟨d, h, rfl, rfl⟩
  | saved document stored =>
    simp only [CacheAction.applyTo, DocumentStore.find?_put]
    by_cases hk : k = document.key
    · rw [if_pos hk]
      subst hk
      refine ⟨_, rfl, ?_⟩
      simp only [DocumentStore.stored, h]
      exact ⟨rfl, rfl⟩
    · rw [if_neg hk]
      exact ⟨d, h, rfl, rfl⟩

/-- A stored document may be replaced, but not by one of another origin. -/
theorem find?_store_append {before : List (Nat × CacheAction)} {k : ServiceKey}
    {d : CapabilitiesDocument} (h : (store before).find? k = some d)
    (after : List (Nat × CacheAction)) :
    ∃ d', (store (before ++ after)).find? k = some d' ∧ SameOrigin d d' := by
  induction after using List.reverseRecOn with
  | nil => exact ⟨d, by simpa using h, rfl, rfl⟩
  | append_singleton after e ih =>
    obtain ⟨d', hd', hid, hcreated⟩ := ih
    obtain ⟨d'', hd'', hid', hcreated'⟩ := sameOrigin_applyTo hd' e.2
    rw [← List.append_assoc, store_concat _ e.1 e.2]
    exact ⟨d'', hd'', hid.trans hid', hcreated.trans hcreated'⟩

theorem isSaved_stored {s : DocumentStore} (h : ∀ k d, s.find? k = some d → d.isSaved)
    (d : CapabilitiesDocument) : (s.stored d).isSaved := by
  unfold DocumentStore.stored
  cases hold : s.find? d.key with
  | none => rfl
  | some old => exact h d.key old hold

theorem isSaved_of_find? {k : ServiceKey} {d : CapabilitiesDocument}
    (h : (store history).find? k = some d) : d.isSaved := by
  induction history using List.reverseRecOn generalizing k d with
  | nil => cases h
  | append_singleton history e ih =>
    obtain ⟨i, a⟩ := e
    rw [store_concat] at h
    cases a with
    | found => exact ih h
    | fetched => exact ih h
    | saved document stored =>
      simp only [CacheAction.applyTo, DocumentStore.find?_put] at h
      split at h
      · cases h
        exact isSaved_stored (fun k d hd => ih hd) document
      · exact ih h

end CacheHistory

end MapServices
