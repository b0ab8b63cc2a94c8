import MapServices.Proofs.Key
import MapServices.Store.Documents

/-!
# Documents saved one after the other

* `stored_eq`: the store keeps a document as it is, up to its number and its time of creation.
* `find?_foldl_put_of_mem`: each of several documents with different keys is found when all are
  saved.
* `find?_foldl_put_of_forall_ne`: what was stored under other keys is found as before.
-/

namespace MapServices.DocumentStore

variable {s : DocumentStore} {d : CapabilitiesDocument} {ds : List CapabilitiesDocument}
  {k : ServiceKey}

theorem stored_eq (s : DocumentStore) (d : CapabilitiesDocument) :
    s.stored d = { d with id := (s.stored d).id, createdAt := (s.stored d).createdAt } := by
  unfold stored
  cases s.find? d.key <;> rfl

theorem find?_put_self (s : DocumentStore) (d : CapabilitiesDocument) :
    (s.put d).find? d.key = some (s.stored d) := by
  rw [find?_put, if_pos rfl]

theorem find?_put_of_ne (s : DocumentStore) (h : d.key ≠ k) : (s.put d).find? k = s.find? k := by
  rw [find?_put, if_neg (Ne.symm h)]

theorem save_of_takes (h : s.saveRefused = false) (d : CapabilitiesDocument) :
    s.save d = (.ok (s.stored d), s.put d) := by
  simp [save, h]

theorem find_of_answers (h : s.findRefused = false) (k : ServiceKey) :
    s.find k = .ok (s.find? k) := by
  simp [find, h]

theorem find?_foldl_put_of_forall_ne (h : ∀ d ∈ ds, d.key ≠ k) (s : DocumentStore) :
    (ds.foldl put s).find? k = s.find? k := by
  induction ds generalizing s with
  | nil => rfl
  | cons d ds ih =>
    rw [List.foldl_cons, ih fun d' hd' => h d' (List.mem_cons_of_mem _ hd')]
    exact find?_put_of_ne s (h d List.mem_cons_self)

theorem find?_foldl_put_of_mem (hnodup : (ds.map CapabilitiesDocument.key).Nodup) (hd : d ∈ ds)
    (s : DocumentStore) :
    ∃ id createdAt, (ds.foldl put s).find? d.key = some { d with id, createdAt } := by
  induction ds generalizing s with
  | nil => cases hd
  | cons d' ds ih =>
    obtain ⟨hother, hnodup⟩ := List.nodup_cons.1 hnodup
    rw [List.foldl_cons]
    rcases List.mem_cons.1 hd with rfl | hd
    · -- the documents that are saved later have other keys
      rw [find?_foldl_put_of_forall_ne, find?_put_self, stored_eq]
      · exact ⟨_, _, rfl⟩
      · intro d' hd' hkey
        exact hother (hkey ▸ List.mem_map_of_mem hd')
    · exact ih hnodup hd (s.put d')

theorem writes_foldl_put (ds : List CapabilitiesDocument) (s : DocumentStore) :
    (ds.foldl put s).writes = s.writes + ds.length := by
  induction ds generalizing s with
  | nil => rfl
  | cons d ds ih =>
    rw [List.foldl_cons, ih, List.length_cons]
    simp only [put]
    omega

theorem findRefused_foldl_put (ds : List CapabilitiesDocument) (s : DocumentStore) :
    (ds.foldl put s).findRefused = s.findRefused := by
  induction ds generalizing s with
  | nil => rfl
  | cons d ds ih =>
    rw [List.foldl_cons, ih]
    rfl

theorem saveRefused_foldl_put (ds : List CapabilitiesDocument) (s : DocumentStore) :
    (ds.foldl put s).saveRefused = s.saveRefused := by
  induction ds generalizing s with
  | nil => rfl
  | cons d ds ih =>
    rw [List.foldl_cons, ih]
    rfl

end MapServices.DocumentStore
