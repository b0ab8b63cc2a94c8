import Mathlib.Data.List.Forall2
import MapServices.Sorted.Map

/-!
# Tables that agree key by key

* `Pointwise`: two tables have the same keys, and related values under each key.
* `Pointwise.get?`, `Pointwise.insert`: looking up and writing keep tables related.
-/

namespace MapServices.SortedMap

variable {κ ν μ : Type} [Ord κ] {R : ν → μ → Prop}

/-- The entries have the same key and related values. -/
structure SameEntry (R : ν → μ → Prop) (e : κ × ν) (e' : κ × μ) : Prop where
  key : e.1 = e'.1
  value : R e.2 e'.2

/-- The tables have the same keys and related values. -/
def Pointwise (R : ν → μ → Prop) (m : SortedMap κ ν) (m' : SortedMap κ μ) : Prop :=
  List.Forall₂ (SameEntry R) m.entries m'.entries

namespace Pointwise

theorem empty : Pointwise R (∅ : SortedMap κ ν) ∅ := List.Forall₂.nil

variable {m : SortedMap κ ν} {m' : SortedMap κ μ}

theorem values (h : Pointwise R m m') : List.Forall₂ R m.values m'.values :=
  List.forall₂_map_left_iff.2 (List.forall₂_map_right_iff.2 (h.imp fun _ _ he => he.value))

theorem size (h : Pointwise R m m') : m.size = m'.size := h.length_eq

theorem findIn {l : List (κ × ν)} {l' : List (κ × μ)} (h : List.Forall₂ (SameEntry R) l l')
    (k : κ) : Option.Rel R (SortedMap.findIn k l) (SortedMap.findIn k l') := by
  induction h with
  | nil => exact .none
  | @cons e e' l l' he _ ih =>
    unfold SortedMap.findIn
    rw [he.key]
    split
    · exact .some he.value
    · exact ih

theorem get? (h : Pointwise R m m') (k : κ) : Option.Rel R (m.get? k) (m'.get? k) := findIn h k

theorem insertInto {l : List (κ × ν)} {l' : List (κ × μ)} (h : List.Forall₂ (SameEntry R) l l')
    (k : κ) {v : ν} {v' : μ} (hv : R v v') :
    List.Forall₂ (SameEntry R) (SortedMap.insertInto k v l) (SortedMap.insertInto k v' l') := by
  have hnew : SameEntry R (k, v) (k, v') := ⟨rfl, hv⟩
  induction h with
  | nil => exact .cons hnew .nil
  | @cons e e' l l' he hrest ih =>
    unfold SortedMap.insertInto
    rw [he.key]
    split
    · exact .cons hnew (.cons ⟨rfl, he.value⟩ hrest)
    · exact .cons hnew hrest
    · exact .cons ⟨rfl, he.value⟩ ih

theorem insert [Std.TransOrd κ] [Std.LawfulEqOrd κ] (h : Pointwise R m m') (k : κ) {v : ν}
    {v' : μ} (hv : R v v') : Pointwise R (m.insert k v) (m'.insert k v') :=
  insertInto h k hv

end Pointwise

end MapServices.SortedMap
