import MapServices.Proofs.Store.Documents

/-!
# What any store of documents does

A store is called with keys and texts, and all that its callers see are its answers. What an answer
depends on is what is found under the keys: the `Holdings` of the store. `Holdings.Step` says what a
call does to them, and leaves open only by which number a new document is known.

* `Holdings.Run.alike`: two stores that start with the same documents answer alike, up to numbers.
* `Holdings.Run.id_eq_iff`: two answers carry one number just if their calls have one key.
* `DocumentStore.IsInOrder.run`: the store in memory is such a store.
-/

namespace MapServices

/-- The key is one of an endpoint in its one spelling, and asks for a version that is not blank or
for none. -/
structure ServiceKey.IsNormal (k : ServiceKey) : Prop where
  url : k.IsStable
  version : normalizeVersion k.version = k.version

theorem ServiceKey.isNormal_ofParts {url : String} {t : ServiceType} {version : Option String}
    (h : (ofParts url t version).IsStable) : (ofParts url t version).IsNormal :=
  ⟨h, normalizeVersion_ofParts url t version⟩

theorem CapabilitiesDocument.key_ofKey_of_isNormal {k : ServiceKey} (h : k.IsNormal)
    (data : String) (now : Instant) : (CapabilitiesDocument.ofKey k data now).key = k :=
  key_ofKey h.url h.version data now

theorem CapabilitiesDocument.version_ofKey_of_isNormal {k : ServiceKey} (h : k.IsNormal)
    (data : String) (now : Instant) :
    (CapabilitiesDocument.ofKey k data now).version = k.version :=
  h.version

/-- The document as it was before a store gave it a number. -/
def CapabilitiesDocument.unnumbered (d : CapabilitiesDocument) : CapabilitiesDocument :=
  { d with id := none }

/-- A call of a store of documents. -/
inductive DocumentCall where
  | find (key : ServiceKey)
  /-- Saves a new document that is made at the given time. -/
  | save (key : ServiceKey) (data : String) (now : Instant)

/-- The key that a call is about. -/
def DocumentCall.key : DocumentCall → ServiceKey
  | find key | save key _ _ => key

/-- The documents that are found under the keys. -/
abbrev Holdings := ServiceKey → Option CapabilitiesDocument

namespace Holdings

/-- The forms in which a document may be kept under a key: the number and the time of creation are
those of the document that is replaced, or else the number is one that no document has. -/
inductive Stored (f : Holdings) (k : ServiceKey) (d : CapabilitiesDocument) :
    CapabilitiesDocument → Prop where
  | again {old : CapabilitiesDocument} (h : f k = some old) :
      Stored f k d { d with id := old.id, createdAt := old.createdAt }
  | new {n : Int} (h : f k = none)
      (hfresh : ∀ k' d', k'.IsNormal → f k' = some d' → d'.id ≠ some n) :
      Stored f k d { d with id := some n }

/-- What a call does, with its answer. -/
inductive Step (f : Holdings) : DocumentCall → Option CapabilitiesDocument → Holdings → Prop where
  | find (k : ServiceKey) : Step f (.find k) (f k) f
  | save {k : ServiceKey} {data : String} {now : Instant} {d : CapabilitiesDocument} {f' : Holdings}
      (hd : f.Stored k (.ofKey k data now) d)
      (hf' : ∀ k', k'.IsNormal → f' k' = if k' = k then some d else f k') :
      Step f (.save k data now) (some d) f'

/-- What calls do one after the other, with their answers. -/
inductive Run :
    Holdings → List DocumentCall → List (Option CapabilitiesDocument) → Holdings → Prop where
  | nil (f : Holdings) : Run f [] [] f
  | cons {f f' f'' : Holdings} {c : DocumentCall} {calls : List DocumentCall}
      {a : Option CapabilitiesDocument} {answers : List (Option CapabilitiesDocument)}
      (hstep : f.Step c a f') (hrest : Run f' calls answers f'') :
      Run f (c :: calls) (a :: answers) f''

variable {f f' g g' : Holdings} {c : DocumentCall} {calls : List DocumentCall}
  {a b : Option CapabilitiesDocument} {answers answers' : List (Option CapabilitiesDocument)}

/-! ## Two stores -/

/-- The same documents, up to numbers. -/
def Alike (f g : Holdings) : Prop :=
  ∀ k, k.IsNormal →
    (f k).map CapabilitiesDocument.unnumbered = (g k).map CapabilitiesDocument.unnumbered

theorem Stored.unnumbered_eq {k : ServiceKey} {d stored stored' : CapabilitiesDocument}
    (h : f.Stored k d stored) (h' : g.Stored k d stored')
    (hfg : (f k).map CapabilitiesDocument.unnumbered = (g k).map CapabilitiesDocument.unnumbered) :
    stored.unnumbered = stored'.unnumbered := by
  cases h with
  | again h =>
    cases h' with
    | again h' =>
      rw [h, h'] at hfg
      have hcreated := congrArg CapabilitiesDocument.createdAt (Option.some.inj hfg)
      simp only [CapabilitiesDocument.unnumbered] at hcreated ⊢
      rw [hcreated]
    | new h' => simp [h, h'] at hfg
  | new h =>
    cases h' with
    | again h' => simp [h, h'] at hfg
    | new h' => rfl

theorem Step.alike (h : f.Step c a f') (h' : g.Step c b g') (hc : c.key.IsNormal)
    (hfg : Alike f g) :
    a.map CapabilitiesDocument.unnumbered = b.map CapabilitiesDocument.unnumbered ∧
      Alike f' g' := by
  cases h with
  | find k =>
    cases h' with
    | find => exact ⟨hfg k hc, hfg⟩
  | @save k data now d f' hd hf' =>
    cases h' with
    | @save _ _ _ d' g' hd' hg' =>
      have hsame : d.unnumbered = d'.unnumbered := hd.unnumbered_eq hd' (hfg k hc)
      refine ⟨congrArg some hsame, fun k' hk' => ?_⟩
      rw [hf' k' hk', hg' k' hk']
      split
      · exact congrArg some hsame
      · exact hfg k' hk'

theorem Run.alike (h : Run f calls answers f') (h' : Run g calls answers' g')
    (hcalls : ∀ c ∈ calls, c.key.IsNormal) (hfg : Alike f g) :
    List.Forall₂
      (fun a b =>
        a.map CapabilitiesDocument.unnumbered = b.map CapabilitiesDocument.unnumbered)
      answers answers' := by
  induction h generalizing g answers' with
  | nil =>
    cases h'
    exact .nil
  | cons hstep _ ih =>
    cases h' with
    | cons hstep' hrest' =>
      obtain ⟨hanswer, hnext⟩ := hstep.alike hstep' (hcalls _ List.mem_cons_self) hfg
      exact .cons hanswer (ih hrest' (fun c hc => hcalls c (List.mem_cons_of_mem _ hc)) hnext)

/-! ## The numbers of one store -/

/-- Each document has a number of its own. -/
structure Numbered (f : Holdings) : Prop where
  isSome : ∀ {k d}, k.IsNormal → f k = some d → d.id.isSome
  injective : ∀ {k k' d d'}, k.IsNormal → k'.IsNormal → f k = some d → f k' = some d' →
    d.id = d'.id → k = k'

theorem Numbered.of_empty (h : ∀ k, f k = none) : f.Numbered where
  isSome _ hd := nomatch (h _).symm.trans hd
  injective _ _ hd := nomatch (h _).symm.trans hd

theorem Stored.id_of_numbered (hf : f.Numbered) {k : ServiceKey} (hk : k.IsNormal)
    {d stored : CapabilitiesDocument} (h : f.Stored k d stored) :
    stored.id.isSome ∧ ∀ k' d', k'.IsNormal → f k' = some d' → d'.id = stored.id → k' = k := by
  cases h with
  | again h =>
    have hnumber := hf.isSome hk h
    exact ⟨hnumber, fun k' d' hk' hd' hid => hf.injective hk' hk hd' h hid⟩
  | new _ hfresh => exact ⟨rfl, fun k' d' hk' hd' hid => absurd hid (hfresh k' d' hk' hd')⟩

theorem Step.numbered (h : f.Step c a f') (hc : c.key.IsNormal) (hf : f.Numbered) :
    f'.Numbered := by
  cases h with
  | find => exact hf
  | @save k data now stored f' hstored hf' =>
    obtain ⟨hnumber, hother⟩ := hstored.id_of_numbered hf hc
    -- what is found now is the document that was saved, or was found before
    have hcases : ∀ k' d', k'.IsNormal → f' k' = some d' →
        (k' = k ∧ d' = stored) ∨ f k' = some d' := by
      intro k' d' hk' hd'
      rw [hf' k' hk'] at hd'
      split at hd'
      · rename_i hkey
        exact .inl ⟨hkey, (Option.some.inj hd').symm⟩
      · exact .inr hd'
    constructor
    · intro k₁ d₁ hk₁ hd₁
      rcases hcases k₁ d₁ hk₁ hd₁ with ⟨-, rfl⟩ | hd₁
      · exact hnumber
      · exact hf.isSome hk₁ hd₁
    · intro k₁ k₂ d₁ d₂ hk₁ hk₂ hd₁ hd₂ hid
      rcases hcases k₁ d₁ hk₁ hd₁ with ⟨rfl, rfl⟩ | hd₁ <;>
        rcases hcases k₂ d₂ hk₂ hd₂ with ⟨rfl, rfl⟩ | hd₂
      · rfl
      · exact (hother k₂ d₂ hk₂ hd₂ hid.symm).symm
      · exact hother k₁ d₁ hk₁ hd₁ hid
      · exact hf.injective hk₁ hk₂ hd₁ hd₂ hid

/-- A number is never given up. -/
theorem Step.id_of_get (h : f.Step c a f') {k : ServiceKey} (hk : k.IsNormal)
    {d : CapabilitiesDocument} (hd : f k = some d) : ∃ d', f' k = some d' ∧ d'.id = d.id := by
  cases h with
  | find => exact ⟨d, hd, rfl⟩
  | @save k₀ data now stored f' hstored hf' =>
    rw [hf' k hk]
    split
    · rename_i hkey
      rw [hkey] at hd
      cases hstored with
      | again h =>
        rw [hd] at h
        cases h
        exact ⟨_, rfl, rfl⟩
      | new h =>
        rw [hd] at h
        cases h
    · exact ⟨d, hd, rfl⟩

theorem Step.get_of_answer (h : f.Step c a f') (hc : c.key.IsNormal) {d : CapabilitiesDocument}
    (ha : a = some d) : f' c.key = some d := by
  cases h with
  | find k => exact ha
  | @save k data now stored f' hstored hf' =>
    rw [← ha]
    exact (hf' k hc).trans (if_pos rfl)

theorem Run.id_of_get (h : Run f calls answers f') {k : ServiceKey} (hk : k.IsNormal)
    {d : CapabilitiesDocument} (hd : f k = some d) : ∃ d', f' k = some d' ∧ d'.id = d.id := by
  induction h generalizing d with
  | nil => exact ⟨d, hd, rfl⟩
  | cons hstep _ ih =>
    obtain ⟨d', hd', hid⟩ := hstep.id_of_get hk hd
    obtain ⟨d'', hd'', hid'⟩ := ih hd'
    exact ⟨d'', hd'', hid'.trans hid⟩

theorem Run.numbered (h : Run f calls answers f') (hcalls : ∀ c ∈ calls, c.key.IsNormal)
    (hf : f.Numbered) : f'.Numbered := by
  induction h with
  | nil => exact hf
  | cons hstep _ ih =>
    exact ih (fun c hc => hcalls c (List.mem_cons_of_mem _ hc))
      (hstep.numbered (hcalls _ List.mem_cons_self) hf)

/-- In the end there is a document of the same number under the key of each answered call. -/
theorem Run.get_of_answer (h : Run f calls answers f') (hcalls : ∀ c ∈ calls, c.key.IsNormal)
    {i : Nat} {d : CapabilitiesDocument} (hc : calls[i]? = some c)
    (hd : answers[i]? = some (some d)) : ∃ d', f' c.key = some d' ∧ d'.id = d.id := by
  induction h generalizing i with
  | nil => simp at hc
  | cons hstep hrest ih =>
    cases i with
    | zero =>
      -- the number stays the same in all later calls
      simp only [List.getElem?_cons_zero, Option.some.injEq] at hc hd
      subst hc hd
      have hkey := hcalls _ List.mem_cons_self
      exact hrest.id_of_get hkey (hstep.get_of_answer hkey rfl)
    | succ i => exact ih (fun c hc => hcalls c (List.mem_cons_of_mem _ hc)) hc hd

theorem Run.id_eq_iff (h : Run f calls answers f') (hcalls : ∀ c ∈ calls, c.key.IsNormal)
    (hf : f.Numbered) {i j : Nat} {c c' : DocumentCall} {d d' : CapabilitiesDocument}
    (hc : calls[i]? = some c) (hc' : calls[j]? = some c') (hd : answers[i]? = some (some d))
    (hd' : answers[j]? = some (some d')) : d.id = d'.id ↔ c.key = c'.key := by
  obtain ⟨e, he, hid⟩ := h.get_of_answer hcalls hc hd
  obtain ⟨e', he', hid'⟩ := h.get_of_answer hcalls hc' hd'
  rw [← hid, ← hid']
  constructor
  · exact (h.numbered hcalls hf).injective (hcalls c (List.mem_of_getElem? hc))
      (hcalls c' (List.mem_of_getElem? hc')) he he'
  · intro hkey
    rw [hkey, he'] at he
    cases he
    rfl

end Holdings

/-! ## The store in memory -/

/-- What a store answers to a call. -/
abbrev DocumentAnswer := Except ServiceError (Option CapabilitiesDocument)

namespace DocumentStore

def answer (s : DocumentStore) : DocumentCall → DocumentAnswer × DocumentStore
  | .find k => (s.find k, s)
  | .save k data now =>
    let (result, s) := s.save (.ofKey k data now)
    (result.map some, s)

/-- The answers to calls one after the other. -/
def answerAll (s : DocumentStore) : List DocumentCall → List DocumentAnswer
  | [] => []
  | c :: calls => (s.answer c).1 :: (s.answer c).2.answerAll calls

/-- The store refuses nothing, and has given no number beyond the last one. -/
structure IsInOrder (s : DocumentStore) : Prop where
  findRefused : s.findRefused = false
  saveRefused : s.saveRefused = false
  numbers : ∀ k d, s.find? k = some d → ∃ n, d.id = some n ∧ n ≤ s.lastId

theorem isInOrder_empty : ({} : DocumentStore).IsInOrder :=
  ⟨rfl, rfl, fun _ _ h => nomatch h⟩

variable {s : DocumentStore} {c : DocumentCall}

theorem IsInOrder.stored (hs : s.IsInOrder) {k : ServiceKey} {d : CapabilitiesDocument}
    (hkey : d.key = k) : Holdings.Stored s.find? k d (s.stored d) := by
  unfold DocumentStore.stored
  rw [hkey]
  cases h : s.find? k with
  | some old => exact .again h
  | none =>
    refine .new h fun k' d' _ hd' hid => ?_
    obtain ⟨n, hn, hle⟩ := hs.numbers k' d' hd'
    rw [hn] at hid
    have hlast := Option.some.inj hid
    omega

theorem IsInOrder.put (hs : s.IsInOrder) (d : CapabilitiesDocument) : (s.put d).IsInOrder := by
  refine ⟨hs.findRefused, hs.saveRefused, fun k' d' hd' => ?_⟩
  have hlast : s.lastId ≤ (s.put d).lastId := by
    simp only [DocumentStore.put]
    split <;> omega
  rw [find?_put] at hd'
  split at hd'
  · obtain rfl := Option.some.inj hd'
    simp only [DocumentStore.stored, DocumentStore.put] at hlast ⊢
    cases h : s.find? d.key with
    | some old =>
      obtain ⟨n, hn, hle⟩ := hs.numbers _ _ h
      exact ⟨n, hn, by simpa [h] using hle⟩
    | none => exact ⟨s.lastId + 1, rfl, by simp⟩
  · obtain ⟨n, hn, hle⟩ := hs.numbers k' d' hd'
    exact ⟨n, hn, by omega⟩

theorem IsInOrder.step (hs : s.IsInOrder) (hc : c.key.IsNormal) :
    ∃ a, (s.answer c).1 = .ok a ∧ Holdings.Step s.find? c a (s.answer c).2.find? ∧
      (s.answer c).2.IsInOrder := by
  cases c with
  | find k => exact ⟨s.find? k, find_of_answers hs.findRefused k, .find k, hs⟩
  | save k data now =>
    have hkey : (CapabilitiesDocument.ofKey k data now).key = k :=
      CapabilitiesDocument.key_ofKey_of_isNormal hc data now
    simp only [answer, save_of_takes hs.saveRefused]
    refine ⟨_, rfl, .save (hs.stored hkey) fun k' _ => ?_, hs.put _⟩
    rw [find?_put, hkey]

theorem IsInOrder.run (hs : s.IsInOrder) {calls : List DocumentCall}
    (hcalls : ∀ c ∈ calls, c.key.IsNormal) :
    ∃ answers f', s.answerAll calls = answers.map Except.ok ∧
      Holdings.Run s.find? calls answers f' := by
  induction calls generalizing s with
  | nil => exact ⟨[], _, rfl, .nil _⟩
  | cons c calls ih =>
    obtain ⟨a, ha, hstep, hnext⟩ := hs.step (hcalls c List.mem_cons_self)
    obtain ⟨answers, f', hanswers, hrun⟩ :=
      ih hnext fun c' hc' => hcalls c' (List.mem_cons_of_mem _ hc')
    exact ⟨a :: answers, f', by rw [answerAll, ha, hanswers]; rfl, .cons hstep hrun⟩

end DocumentStore

end MapServices
