import Mathlib.Data.List.Nodup
import MapServices.Sorted.Map

/-!
# Tables and look-ups

A table is settled by what its keys look up, and its entries, keys and values are what the look-ups
find.

* `mem_entries_iff`, `mem_keys_iff`, `mem_values_iff`: what a table lists, in terms of look-ups.
* `ext_get?`: two tables with the same look-ups are one table.
* `ofList_entries`: a table is made again from its entries.
* `entries_insert_of_get?`: writing a key that is there changes one entry in its place.
* `mapValues` changes the values of a table and leaves its keys alone.
-/

namespace MapServices.SortedMap

variable {κ ν μ : Type} [Ord κ] [Std.TransOrd κ] [Std.LawfulEqOrd κ]

/-! ## What a table lists -/

omit [Std.LawfulEqOrd κ] in
theorem ne_of_compare_lt {k k' : κ} (h : compare k k' = .lt) : k ≠ k' := by
  rintro rfl
  have hself : compare k k = .eq := Std.ReflCmp.compare_self
  rw [hself] at h
  cases h

theorem findIn_of_mem {k : κ} {v : ν} {l : List (κ × ν)}
    (hl : l.Pairwise (fun a b => compare a.1 b.1 = .lt)) (h : (k, v) ∈ l) :
    findIn k l = some v := by
  induction l with
  | nil => cases h
  | cons a rest ih =>
    obtain ⟨ha, hrest⟩ := List.pairwise_cons.1 hl
    rcases List.mem_cons.1 h with rfl | h
    · simp [findIn]
    · have hne : k ≠ a.1 := (ne_of_compare_lt (ha _ h)).symm
      rw [findIn, if_neg fun he => hne (Std.LawfulEqCmp.compare_eq_iff_eq.1 he)]
      exact ih hrest h

theorem mem_entries_iff {m : SortedMap κ ν} {k : κ} {v : ν} :
    (k, v) ∈ m.entries ↔ m.get? k = some v :=
  ⟨findIn_of_mem m.ascending, mem_entries_of_get?⟩

theorem mem_keys_iff {m : SortedMap κ ν} {k : κ} : k ∈ m.keys ↔ (m.get? k).isSome := by
  rw [keys, List.mem_map, Option.isSome_iff_exists]
  constructor
  · rintro ⟨⟨k', v⟩, he, rfl⟩
    exact ⟨v, mem_entries_iff.1 he⟩
  · rintro ⟨v, hv⟩
    exact ⟨(k, v), mem_entries_iff.2 hv, rfl⟩

theorem mem_values_iff {m : SortedMap κ ν} {v : ν} : v ∈ m.values ↔ ∃ k, m.get? k = some v := by
  rw [values, List.mem_map]
  constructor
  · rintro ⟨⟨k, v'⟩, he, rfl⟩
    exact ⟨k, mem_entries_iff.1 he⟩
  · rintro ⟨k, hk⟩
    exact ⟨(k, v), mem_entries_iff.2 hk, rfl⟩

omit [Std.LawfulEqOrd κ] in
theorem nodup_keys (m : SortedMap κ ν) : m.keys.Nodup := by
  rw [keys, List.Nodup, List.pairwise_map]
  exact m.ascending.imp ne_of_compare_lt

/-! ## Equal look-ups -/

omit [Std.LawfulEqOrd κ] in
/-- Ascending entries are settled by which entries there are. -/
theorem entries_eq_of_mem_iff {l l' : List (κ × ν)}
    (hl : l.Pairwise (fun a b => compare a.1 b.1 = .lt))
    (hl' : l'.Pairwise (fun a b => compare a.1 b.1 = .lt)) (h : ∀ e, e ∈ l ↔ e ∈ l') :
    l = l' := by
  have hirrefl : ∀ {a b : κ × ν}, compare a.1 b.1 = .lt → a ≠ b := by
    intro a b hlt heq
    exact ne_of_compare_lt hlt (congrArg Prod.fst heq)
  have hperm : l.Perm l' := (List.perm_ext_iff_of_nodup (hl.imp hirrefl) (hl'.imp hirrefl)).2 h
  refine hperm.eq_of_pairwise (fun a b _ _ hab hba => ?_) hl hl'
  rw [Std.OrientedCmp.gt_iff_lt.2 hab] at hba
  cases hba

/-- Two tables with the same look-ups are one table. -/
theorem ext_get? {m m' : SortedMap κ ν} (h : ∀ k, m.get? k = m'.get? k) : m = m' := by
  refine ext (entries_eq_of_mem_iff m.ascending m'.ascending ?_)
  rintro ⟨k, v⟩
  rw [mem_entries_iff, mem_entries_iff, h k]

/-! ## Tables of entries -/

omit [Std.TransOrd κ] [Std.LawfulEqOrd κ] in
theorem findIn_of_lt {k : κ} {l : List (κ × ν)} (h : ∀ e ∈ l, compare k e.1 = .lt) :
    findIn k l = none := by
  induction l with
  | nil => rfl
  | cons a rest ih =>
    rw [findIn, if_neg (by rw [h a List.mem_cons_self]; decide)]
    exact ih fun e he => h e (List.mem_cons_of_mem _ he)

theorem get?_foldl_insert [DecidableEq κ] {l : List (κ × ν)}
    (hl : l.Pairwise (fun a b => compare a.1 b.1 = .lt)) (m : SortedMap κ ν) (k : κ) :
    (l.foldl (fun m e => m.insert e.1 e.2) m).get? k = (findIn k l).or (m.get? k) := by
  induction l generalizing m with
  | nil => rfl
  | cons a rest ih =>
    obtain ⟨ha, hrest⟩ := List.pairwise_cons.1 hl
    rw [List.foldl_cons, ih hrest, get?_insert, findIn]
    by_cases hk : k = a.1
    · -- the other keys come later
      have hnone : findIn k rest = none := findIn_of_lt (by rw [hk]; exact ha)
      rw [hnone, if_pos hk, if_pos (by rw [hk]; exact Std.ReflCmp.compare_self)]
      rfl
    · rw [if_neg hk, if_neg fun he => hk (Std.LawfulEqCmp.compare_eq_iff_eq.1 he)]

/-- The entries of a table make the table again. -/
theorem ofList_entries [DecidableEq κ] (m : SortedMap κ ν) : ofList m.entries = m := by
  refine ext_get? fun k => ?_
  have hempty : (∅ : SortedMap κ ν).get? k = none := rfl
  rw [ofList, get?_foldl_insert m.ascending, hempty, Option.or_none]
  rfl

/-! ## Changing the values -/

theorem insertInto_of_mem [DecidableEq κ] {k : κ} {v old : ν} {l : List (κ × ν)}
    (hl : l.Pairwise (fun a b => compare a.1 b.1 = .lt)) (h : (k, old) ∈ l) :
    insertInto k v l = l.map fun e => if e.1 = k then (k, v) else e := by
  induction l with
  | nil => cases h
  | cons a rest ih =>
    obtain ⟨ha, hrest⟩ := List.pairwise_cons.1 hl
    rw [insertInto, List.map_cons]
    rcases List.mem_cons.1 h with rfl | h
    · have hself : compare k k = .eq := Std.ReflCmp.compare_self
      have hothers : ∀ e ∈ rest, e.1 ≠ k := fun e he => (ne_of_compare_lt (ha e he)).symm
      rw [hself, if_pos rfl, List.map_congr_left fun e he => if_neg (hothers e he), List.map_id']
    · have hlater : compare k a.1 = .gt := Std.OrientedCmp.gt_iff_lt.2 (ha _ h)
      rw [hlater, if_neg (ne_of_compare_lt (ha _ h)), ih hrest h]

/-- Writing a key that is there changes one entry in its place. -/
theorem entries_insert_of_get? [DecidableEq κ] {m : SortedMap κ ν} {k : κ} {old : ν}
    (h : m.get? k = some old) (v : ν) :
    (m.insert k v).entries = m.entries.map fun e => if e.1 = k then (k, v) else e :=
  insertInto_of_mem m.ascending (mem_entries_iff.2 h)

/-- The table with each value replaced by what `f` makes of it. -/
def mapValues (f : ν → μ) (m : SortedMap κ ν) : SortedMap κ μ where
  entries := m.entries.map fun e => (e.1, f e.2)
  ascending := List.pairwise_map.2 m.ascending

omit [Std.TransOrd κ] [Std.LawfulEqOrd κ] in
theorem get?_mapValues (f : ν → μ) (m : SortedMap κ ν) (k : κ) :
    (m.mapValues f).get? k = (m.get? k).map f := by
  show findIn k (m.entries.map fun e => (e.1, f e.2)) = (findIn k m.entries).map f
  induction m.entries with
  | nil => rfl
  | cons a rest ih =>
    simp only [List.map_cons, findIn]
    split
    · rfl
    · exact ih

end MapServices.SortedMap
