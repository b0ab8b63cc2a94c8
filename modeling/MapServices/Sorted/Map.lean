/-!
# Tables in ascending key order

A `SortedMap` is a list of entries whose keys strictly ascend, so that equal contents are equal
values and the order in which entries are listed is settled.

* `get?_insert`: after writing a key, that key has the value written and every other key has what it
  had before.
-/

namespace MapServices

/-- A table with entries in ascending key order. -/
structure SortedMap (κ : Type) (ν : Type) [Ord κ] where
  entries : List (κ × ν)
  /-- The keys strictly ascend. -/
  ascending : entries.Pairwise (fun a b => compare a.1 b.1 = .lt)

namespace SortedMap

variable {κ ν : Type} [Ord κ]

instance : EmptyCollection (SortedMap κ ν) where
  emptyCollection := ⟨[], List.Pairwise.nil⟩

instance : Inhabited (SortedMap κ ν) where
  default := ∅

instance [DecidableEq κ] [DecidableEq ν] : DecidableEq (SortedMap κ ν) := fun a b =>
  decidable_of_iff (a.entries = b.entries) (by
    constructor
    · intro h; cases a; cases b; cases h; rfl
    · rintro rfl; rfl)

@[ext] theorem ext {a b : SortedMap κ ν} (h : a.entries = b.entries) : a = b := by
  cases a; cases b; cases h; rfl

/-- The keys in ascending order. -/
def keys (m : SortedMap κ ν) : List κ := m.entries.map Prod.fst

/-- The values in the order of their keys. -/
def values (m : SortedMap κ ν) : List ν := m.entries.map Prod.snd

/-- The number of entries. -/
def size (m : SortedMap κ ν) : Nat := m.entries.length

/-- The value of a key among the entries. -/
def findIn (k : κ) : List (κ × ν) → Option ν
  | [] => none
  | (k', v) :: rest => if compare k k' = .eq then some v else findIn k rest

/-- The value of a key. -/
def get? (m : SortedMap κ ν) (k : κ) : Option ν := findIn k m.entries

/-- Whether the key has a value. -/
def contains (m : SortedMap κ ν) (k : κ) : Bool := (m.get? k).isSome

theorem mem_of_findIn [Std.LawfulEqOrd κ] {k : κ} {v : ν} {l : List (κ × ν)}
    (h : findIn k l = some v) : (k, v) ∈ l := by
  induction l with
  | nil => simp [findIn] at h
  | cons a rest ih =>
    obtain ⟨k', v'⟩ := a
    unfold findIn at h
    split at h
    · rename_i heq
      cases h
      rw [Std.LawfulEqCmp.compare_eq_iff_eq.1 heq]
      exact List.mem_cons_self
    · exact List.mem_cons_of_mem _ (ih h)

theorem mem_entries_of_get? [Std.LawfulEqOrd κ] {m : SortedMap κ ν} {k : κ} {v : ν}
    (h : m.get? k = some v) : (k, v) ∈ m.entries :=
  mem_of_findIn h

/-- Writes the value of a key into ascending entries. -/
def insertInto (k : κ) (v : ν) : List (κ × ν) → List (κ × ν)
  | [] => [(k, v)]
  | (k', v') :: rest =>
    match compare k k' with
    | .lt => (k, v) :: (k', v') :: rest
    | .eq => (k, v) :: rest
    | .gt => (k', v') :: insertInto k v rest

theorem mem_insertInto {k : κ} {v : ν} {l : List (κ × ν)} {e : κ × ν}
    (h : e ∈ insertInto k v l) : e = (k, v) ∨ e ∈ l := by
  induction l with
  | nil => simpa [insertInto] using h
  | cons a rest ih =>
    unfold insertInto at h
    split at h
    · simpa using h
    · rcases List.mem_cons.1 h with h | h
      · exact Or.inl h
      · exact Or.inr (List.mem_cons_of_mem _ h)
    · rcases List.mem_cons.1 h with h | h
      · exact Or.inr (h ▸ List.mem_cons_self)
      · rcases ih h with h | h
        · exact Or.inl h
        · exact Or.inr (List.mem_cons_of_mem _ h)

theorem ascending_insertInto [Std.TransOrd κ] [Std.LawfulEqOrd κ] {k : κ} {v : ν} {l : List (κ × ν)}
    (h : l.Pairwise (fun a b => compare a.1 b.1 = .lt)) :
    (insertInto k v l).Pairwise (fun a b => compare a.1 b.1 = .lt) := by
  induction l with
  | nil => simp [insertInto]
  | cons a rest ih =>
    obtain ⟨ha, hrest⟩ := List.pairwise_cons.1 h
    unfold insertInto
    split
    · rename_i hlt
      refine List.pairwise_cons.2 ⟨fun e he => ?_, h⟩
      rcases List.mem_cons.1 he with rfl | he
      · exact hlt
      · exact Std.TransCmp.lt_trans hlt (ha e he)
    · rename_i heq
      have hk : k = a.1 := Std.LawfulEqCmp.compare_eq_iff_eq.1 heq
      refine List.pairwise_cons.2 ⟨fun e he => ?_, hrest⟩
      rw [hk]; exact ha e he
    · rename_i hgt
      refine List.pairwise_cons.2 ⟨fun e he => ?_, ih hrest⟩
      rcases mem_insertInto he with rfl | he
      · exact Std.OrientedCmp.gt_iff_lt.1 hgt
      · exact ha e he

/-- Writes the value of a key. -/
def insert [Std.TransOrd κ] [Std.LawfulEqOrd κ] (m : SortedMap κ ν) (k : κ) (v : ν) :
    SortedMap κ ν where
  entries := insertInto k v m.entries
  ascending := ascending_insertInto m.ascending

/-- The table of a list of entries, in which a later entry for a key replaces an earlier one. -/
def ofList [Std.TransOrd κ] [Std.LawfulEqOrd κ] (l : List (κ × ν)) : SortedMap κ ν :=
  l.foldl (fun m e => m.insert e.1 e.2) ∅

/-- Writes the value that `f` makes of the present value of a key. -/
def alter [Std.TransOrd κ] [Std.LawfulEqOrd κ] (m : SortedMap κ ν) (k : κ) (f : Option ν → ν) :
    SortedMap κ ν :=
  m.insert k (f (m.get? k))

/-- Takes the entry of a key out. -/
def erase [BEq κ] (m : SortedMap κ ν) (k : κ) : SortedMap κ ν where
  entries := m.entries.filter (·.1 != k)
  ascending := m.ascending.sublist List.filter_sublist

theorem findIn_insertInto_self [Std.LawfulEqOrd κ] {k : κ} {v : ν} {l : List (κ × ν)} :
    findIn k (insertInto k v l) = some v := by
  induction l with
  | nil => simp [insertInto, findIn]
  | cons a rest ih =>
    unfold insertInto
    split
    · simp [findIn]
    · simp [findIn]
    · rename_i hgt
      simp [findIn, hgt, ih]

theorem findIn_insertInto_of_ne [Std.LawfulEqOrd κ] {k k' : κ} {v : ν} {l : List (κ × ν)}
    (h : k' ≠ k) :
    findIn k' (insertInto k v l) = findIn k' l := by
  have hne : compare k' k ≠ .eq := fun he => h (Std.LawfulEqCmp.compare_eq_iff_eq.1 he)
  induction l with
  | nil => simp [insertInto, findIn, hne]
  | cons a rest ih =>
    unfold insertInto
    split
    · simp [findIn, hne]
    · rename_i heq
      have hk : k = a.1 := Std.LawfulEqCmp.compare_eq_iff_eq.1 heq
      simp [findIn, hk ▸ hne, hne]
    · simp [findIn, ih]

theorem get?_insert_self [Std.TransOrd κ] [Std.LawfulEqOrd κ] (m : SortedMap κ ν) (k : κ) (v : ν) :
    (m.insert k v).get? k = some v :=
  findIn_insertInto_self

theorem get?_insert_of_ne [Std.TransOrd κ] [Std.LawfulEqOrd κ] (m : SortedMap κ ν) {k k' : κ}
    (v : ν) (h : k' ≠ k) : (m.insert k v).get? k' = m.get? k' :=
  findIn_insertInto_of_ne h

/-- After writing a key, it has the value written, and every other key has what it had before. -/
theorem get?_insert [DecidableEq κ] [Std.TransOrd κ] [Std.LawfulEqOrd κ] (m : SortedMap κ ν)
    (k k' : κ) (v : ν) : (m.insert k v).get? k' = if k' = k then some v else m.get? k' := by
  split
  · rename_i h; subst h; exact get?_insert_self ..
  · rename_i h; exact get?_insert_of_ne m v h

end SortedMap

end MapServices
