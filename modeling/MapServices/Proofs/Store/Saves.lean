import MapServices.Proofs.Lists
import MapServices.Proofs.Sorted.Map
import MapServices.Proofs.Store.Documents

/-!
# Documents saved into an empty store

What a store holds after any saves can be read off the saved documents, whatever numbers they bring
along and however their keys are spelled. Under a key the last document is found that was saved for
it. Its number is the place of the key in the order in which keys were saved for the first time, and
its time of creation is that of the first document that was saved for the key.

* `kept?` says this of the documents alone, and `IsKept.put` that a save keeps it up.
* `numbered_by_first_save`: what is found after any saves, and what each save answers.
-/

namespace MapServices.DocumentStore

variable {s : DocumentStore} {ds : List CapabilitiesDocument} {d : CapabilitiesDocument}
  {k : ServiceKey}

/-! ## What the documents say -/

/-- The keys of documents, each where it occurs first. -/
def keysInOrder (ds : List CapabilitiesDocument) : List ServiceKey :=
  (ds.map CapabilitiesDocument.key).eraseDups

/-- The documents with the given key. -/
def savedFor (k : ServiceKey) (ds : List CapabilitiesDocument) : List CapabilitiesDocument :=
  ds.filter (·.key = k)

/-- The number of a key: the first one has the number 1. -/
def numberOf (k : ServiceKey) (ds : List CapabilitiesDocument) : Int := (keysInOrder ds).idxOf k + 1

/-- The form in which the last document with the given key is kept. -/
def kept? (ds : List CapabilitiesDocument) (k : ServiceKey) : Option CapabilitiesDocument :=
  (savedFor k ds).head?.bind fun first => (savedFor k ds).getLast?.map fun last =>
    { last with id := some (numberOf k ds), createdAt := first.createdAt }

theorem mem_keysInOrder : k ∈ keysInOrder ds ↔ ∃ d ∈ ds, d.key = k := by
  rw [keysInOrder, List.mem_eraseDups, List.mem_map]

theorem nodup_keysInOrder (ds : List CapabilitiesDocument) : (keysInOrder ds).Nodup :=
  Lists.nodup_eraseDups _

theorem keysInOrder_concat (ds : List CapabilitiesDocument) (d : CapabilitiesDocument) :
    keysInOrder (ds ++ [d]) =
      if d.key ∈ keysInOrder ds then keysInOrder ds else keysInOrder ds ++ [d.key] := by
  simp only [keysInOrder, List.map_append, List.map_singleton, Lists.eraseDups_concat,
    List.mem_eraseDups]

theorem savedFor_eq_nil_iff : savedFor k ds = [] ↔ k ∉ keysInOrder ds := by
  rw [savedFor, List.filter_eq_nil_iff, mem_keysInOrder]
  simp

theorem kept?_eq_none_iff : kept? ds k = none ↔ k ∉ keysInOrder ds := by
  rw [← savedFor_eq_nil_iff, kept?]
  cases savedFor k ds with
  | nil => simp
  | cons first more => simp [List.getLast?_cons]

theorem isPrefix_keysInOrder (ds more : List CapabilitiesDocument) :
    keysInOrder ds <+: keysInOrder (ds ++ more) := by
  simp only [keysInOrder, List.map_append, List.eraseDups_append]
  exact List.prefix_append ..

/-- A key keeps its number. -/
theorem numberOf_append (h : k ∈ keysInOrder ds) (more : List CapabilitiesDocument) :
    numberOf k (ds ++ more) = numberOf k ds := by
  obtain ⟨further, hkeys⟩ := isPrefix_keysInOrder ds more
  rw [numberOf, ← hkeys, List.idxOf_append_of_mem h, numberOf]

/-- A new key gets the next number. -/
theorem numberOf_concat (h : d.key ∉ keysInOrder ds) :
    numberOf d.key (ds ++ [d]) = (keysInOrder ds).length + 1 := by
  rw [numberOf, keysInOrder_concat, if_neg h, List.idxOf_append_of_notMem h]
  simp

theorem kept?_concat_of_ne (h : d.key ≠ k) : kept? (ds ++ [d]) k = kept? ds k := by
  have hsaved : savedFor k (ds ++ [d]) = savedFor k ds := by simp [savedFor, h]
  by_cases hk : k ∈ keysInOrder ds
  · rw [kept?, hsaved, numberOf_append hk, ← kept?]
  · rw [kept?, hsaved, savedFor_eq_nil_iff.2 hk, kept?_eq_none_iff.2 hk]
    rfl

/-- What is kept of a document for a new key. -/
theorem kept?_concat_new (h : kept? ds d.key = none) :
    kept? (ds ++ [d]) d.key = some { d with id := some ((keysInOrder ds).length + 1) } := by
  have hnew := kept?_eq_none_iff.1 h
  have hsaved : savedFor d.key (ds ++ [d]) = [d] := by
    rw [savedFor, List.filter_append, ← savedFor, savedFor_eq_nil_iff.2 hnew]
    simp
  rw [kept?, hsaved, numberOf_concat hnew]
  rfl

/-- What is kept of a document for a key that has one. -/
theorem kept?_concat_again {old : CapabilitiesDocument} (h : kept? ds d.key = some old) :
    kept? (ds ++ [d]) d.key = some { d with id := old.id, createdAt := old.createdAt } := by
  have hold : d.key ∈ keysInOrder ds := by
    by_contra hnew
    rw [kept?_eq_none_iff.2 hnew] at h
    cases h
  have hsaved : savedFor d.key (ds ++ [d]) = savedFor d.key ds ++ [d] := by simp [savedFor]
  obtain ⟨first, hfirst, h⟩ := Option.bind_eq_some_iff.1 h
  obtain ⟨last, -, rfl⟩ := Option.map_eq_some_iff.1 h
  rw [kept?, hsaved, List.head?_append, hfirst, List.getLast?_concat, numberOf_append hold]
  rfl

/-! ## What the store does -/

/-- The store holds what is kept of the documents, and has given a number to each key. -/
structure IsKept (ds : List CapabilitiesDocument) (s : DocumentStore) : Prop where
  find? : ∀ k, s.find? k = kept? ds k
  lastId : s.lastId = (keysInOrder ds).length

theorem isKept_empty : IsKept [] {} := ⟨fun _ => rfl, rfl⟩

theorem IsKept.stored (h : IsKept ds s) (d : CapabilitiesDocument) :
    kept? (ds ++ [d]) d.key = some (s.stored d) := by
  rw [DocumentStore.stored, h.find?]
  cases hold : kept? ds d.key with
  | some old => exact kept?_concat_again hold
  | none => rw [kept?_concat_new hold, h.lastId]

/-- A save keeps up what the store holds. -/
theorem IsKept.put (h : IsKept ds s) (d : CapabilitiesDocument) : IsKept (ds ++ [d]) (s.put d) where
  find? k := by
    rw [find?_put]
    split
    · rename_i hk
      rw [hk, h.stored]
    · rename_i hk
      rw [h.find?, kept?_concat_of_ne (Ne.symm hk)]
  lastId := by
    rw [keysInOrder_concat]
    simp only [DocumentStore.put, h.find?]
    cases hold : kept? ds d.key with
    | none => simp [kept?_eq_none_iff.1 hold, h.lastId]
    | some old =>
      have hmem : d.key ∈ keysInOrder ds := by
        by_contra hnew
        rw [kept?_eq_none_iff.2 hnew] at hold
        cases hold
      simp [hmem, h.lastId]

theorem isKept_foldl_put (ds : List CapabilitiesDocument) : IsKept ds (ds.foldl put {}) := by
  induction ds using List.reverseRecOn with
  | nil => exact isKept_empty
  | append_singleton ds d ih =>
    rw [List.foldl_concat]
    exact ih.put d

theorem IsKept.size (h : IsKept ds s) : s.size = (keysInOrder ds).length := by
  have hperm : s.documents.keys.Perm (keysInOrder ds) := by
    rw [List.perm_ext_iff_of_nodup (SortedMap.nodup_keys _) (nodup_keysInOrder ds)]
    intro k
    have hfind : s.documents.get? k = kept? ds k := h.find? k
    rw [SortedMap.mem_keys_iff, hfind, ← not_iff_not, Option.not_isSome_iff_eq_none,
      kept?_eq_none_iff]
  rw [← hperm.length_eq, SortedMap.keys, List.length_map]
  rfl

/-! ## Saves one after the other -/

/-- The answers to saves one after the other, and the store after them. -/
def saveAll (s : DocumentStore) :
    List CapabilitiesDocument → List (Except ServiceError CapabilitiesDocument) × DocumentStore
  | [] => ([], s)
  | d :: ds =>
    let (answer, s) := s.save d
    let (answers, s) := s.saveAll ds
    (answer :: answers, s)

theorem saveAll_of_takes (h : s.saveRefused = false) (ds : List CapabilitiesDocument) :
    (s.saveAll ds).2 = ds.foldl put s := by
  induction ds generalizing s with
  | nil => rfl
  | cons d ds ih =>
    simp only [saveAll, save_of_takes h, List.foldl_cons]
    exact ih h

/-- Each answer is that of the store after the saves before. -/
theorem getElem?_answers (s : DocumentStore) (ds : List CapabilitiesDocument) (i : Nat) :
    (s.saveAll ds).1[i]? = ds[i]?.map fun d => ((s.saveAll (ds.take i)).2.save d).1 := by
  induction ds generalizing s i with
  | nil => rfl
  | cons d ds ih =>
    cases i with
    | zero => rfl
    | succ i => exact ih (s.save d).2 i

/-- What is found in a store, and what it has answered, after the given documents were saved in it
one after the other. -/
structure NumbersByFirstSave (ds : List CapabilitiesDocument)
    (answers : List (Except ServiceError CapabilitiesDocument)) (s : DocumentStore) : Prop where
  find_eq_none_iff : ∀ k, s.find k = .ok none ↔ ∀ d ∈ ds, d.key ≠ k
  /-- The last document is found, with the number of its key and the time of the first one. -/
  find_eq_last : ∀ k first last, (savedFor k ds).head? = some first →
    (savedFor k ds).getLast? = some last →
      s.find k =
        .ok (some { last with id := some (numberOf k ds), createdAt := first.createdAt })
  numberOf_eq : ∀ (i : Nat) k, (keysInOrder ds)[i]? = some k → numberOf k ds = i + 1
  size : s.size = (keysInOrder ds).length
  writes : s.writes = ds.length
  /-- Each save answers with what is found after it. -/
  answer : ∀ (i : Nat) d, ds[i]? = some d → ∃ r, answers[i]? = some (.ok r) ∧
    (saveAll {} (ds.take (i + 1))).2.find d.key = .ok (some r)
  /-- Neither at this time nor at any later one does a second key have the number of a key. -/
  id_eq_iff : ∀ more k k' d d', s.find k = .ok (some d) →
    (saveAll {} (ds ++ more)).2.find k' = .ok (some d') → (d.id = d'.id ↔ k = k')

theorem find_saveAll (ds : List CapabilitiesDocument) (k : ServiceKey) :
    (saveAll {} ds).2.find k = .ok (kept? ds k) := by
  rw [saveAll_of_takes rfl, find_of_answers (findRefused_foldl_put ds {}),
    (isKept_foldl_put ds).find?]

theorem mem_keysInOrder_of_kept? (h : kept? ds k = some d) :
    k ∈ keysInOrder ds ∧ d.id = some (numberOf k ds) := by
  constructor
  · by_contra hk
    rw [kept?_eq_none_iff.2 hk] at h
    cases h
  · obtain ⟨first, -, h⟩ := Option.bind_eq_some_iff.1 h
    obtain ⟨last, -, rfl⟩ := Option.map_eq_some_iff.1 h
    rfl

/-- Whatever documents are saved in an empty store, the keys are numbered in the order in which they
are saved for the first time, and under each key the last document is found. -/
theorem numbered_by_first_save (ds : List CapabilitiesDocument) :
    NumbersByFirstSave ds (saveAll {} ds).1 (saveAll {} ds).2 where
  find_eq_none_iff k := by
    rw [find_saveAll, Except.ok.injEq, kept?_eq_none_iff, mem_keysInOrder]
    simp
  find_eq_last k first last hfirst hlast := by
    rw [find_saveAll, kept?, hfirst, hlast]
    rfl
  numberOf_eq i k hk := by
    obtain ⟨hi, rfl⟩ := List.getElem?_eq_some_iff.1 hk
    rw [numberOf, (nodup_keysInOrder ds).idxOf_getElem i hi]
  size := by rw [saveAll_of_takes rfl, (isKept_foldl_put ds).size]
  writes := by rw [saveAll_of_takes rfl, writes_foldl_put, Nat.zero_add]
  answer i d hd := by
    have hrefused : (saveAll {} (ds.take i)).2.saveRefused = false := by
      rw [saveAll_of_takes rfl, saveRefused_foldl_put]
    refine ⟨(saveAll {} (ds.take i)).2.stored d, ?_, ?_⟩
    · rw [getElem?_answers, hd, Option.map_some, save_of_takes hrefused]
    · rw [find_saveAll, List.take_add_one, hd, Option.toList_some, saveAll_of_takes rfl,
        (isKept_foldl_put (ds.take i)).stored]
  id_eq_iff more k k' d d' hd hd' := by
    rw [find_saveAll, Except.ok.injEq] at hd hd'
    obtain ⟨hk, hid⟩ := mem_keysInOrder_of_kept? hd
    obtain ⟨hk', hid'⟩ := mem_keysInOrder_of_kept? hd'
    rw [hid, hid', ← numberOf_append hk more, Option.some.injEq, numberOf, numberOf,
      Int.add_left_inj, Int.natCast_inj]
    exact List.idxOf_inj ((isPrefix_keysInOrder ds more).mem hk)

end MapServices.DocumentStore
