import MapServices.Proofs.Sorted.Map
import MapServices.Sorted.Set

/-!
# Members of sets of strings

* `mem_foldl_insert`: what a set holds after the strings of a list were put into it.
* `keys_eq_toList`: a table whose keys are the members of a set lists them in the same order.
-/

namespace MapServices.NameSet

variable {s : NameSet} {x y : String}

theorem mem_iff : x ∈ s ↔ (s.members.get? x).isSome := Iff.rfl

theorem not_mem_empty : x ∉ (∅ : NameSet) := by
  rw [mem_iff]
  exact nofun

theorem mem_insert : y ∈ s.insert x ↔ y = x ∨ y ∈ s := by
  rw [mem_iff, mem_iff, insert]
  by_cases h : y = x
  · rw [h, SortedMap.get?_insert_self]
    simp
  · rw [SortedMap.get?_insert_of_ne _ _ h]
    simp [h]

theorem mem_foldl_insert {l : List String} : y ∈ l.foldl insert s ↔ y ∈ s ∨ y ∈ l := by
  induction l generalizing s with
  | nil => simp
  | cons x l ih =>
    rw [List.foldl_cons, ih, mem_insert, List.mem_cons, or_comm (a := y = x), or_assoc]

theorem mem_toList : x ∈ s.toList ↔ x ∈ s := SortedMap.mem_keys_iff

theorem nodup_toList (s : NameSet) : s.toList.Nodup := s.members.nodup_keys

theorem keys_eq_toList {ν : Type} {m : SortedMap String ν} (h : ∀ x, (m.get? x).isSome ↔ x ∈ s) :
    m.keys = s.toList := by
  have hmembers : m.mapValues (fun _ => ()) = s.members := by
    refine SortedMap.ext_get? fun x => Option.ext fun _ => ?_
    rw [SortedMap.get?_mapValues]
    have hx := h x
    rw [mem_iff] at hx
    cases hm : m.get? x <;> cases hs : s.members.get? x <;> simp_all
  rw [toList, ← hmembers]
  simp [SortedMap.keys, SortedMap.mapValues]

end MapServices.NameSet
