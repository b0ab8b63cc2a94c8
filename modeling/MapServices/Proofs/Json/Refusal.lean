import Mathlib.Data.List.Basic
import MapServices.Json.Decode

/-!
# Values that are taken up as they are

A list or a record is taken up if its parts are, and if there is room for one more level.

* `refusalWithin?_array`, `refusalWithin?_record`: when a list or a record is taken up.
-/

namespace MapServices.Json

variable {limit : Nat} {items : List Json} {fields : List (String × Json)}

theorem itemsRefusal?_eq_none_iff :
    itemsRefusal? limit items = none ↔ ∀ x ∈ items, refusalWithin? limit x = none := by
  induction items with
  | nil => simp [itemsRefusal?]
  | cons x items ih => rw [itemsRefusal?, Option.or_eq_none_iff, ih, List.forall_mem_cons]

theorem fieldsRefusal?_eq_none_iff :
    fieldsRefusal? limit (fields.map fun f => (some f.1, f.2)) = none ↔
      ∀ f ∈ fields, refusalWithin? limit f.2 = none := by
  induction fields with
  | nil => simp [fieldsRefusal?]
  | cons f fields ih =>
    rw [List.map_cons, fieldsRefusal?, if_pos Option.isSome_some, Option.or_eq_none_iff, ih,
      List.forall_mem_cons]

theorem refusalWithin?_array (h : 1 < limit) : refusalWithin? limit (.array items) = none ↔
    ∀ x ∈ items, refusalWithin? (limit - 1) x = none := by
  rw [refusalWithin?, if_neg (Nat.not_le.2 h), itemsRefusal?_eq_none_iff]

theorem refusalWithin?_record (h : 1 < limit) : refusalWithin? limit (record fields) = none ↔
    ∀ f ∈ fields, refusalWithin? (limit - 1) f.2 = none := by
  rw [record, refusalWithin?, if_neg (Nat.not_le.2 h), fieldsRefusal?_eq_none_iff]

theorem refusalWithin?_ofString (s : String) : refusalWithin? limit (ofString s) = none := by
  rw [ofString, refusalWithin?, if_pos Option.isSome_some]

theorem refusalWithin?_ofStrings (h : 1 < limit) (l : List String) :
    refusalWithin? limit (ofStrings l) = none := by
  rw [ofStrings, refusalWithin?_array h, List.forall_mem_map]
  exact fun s _ => refusalWithin?_ofString s

theorem refusalWithin?_optionalText (s? : Option String) :
    refusalWithin? limit (ofOption ofString s?) = none := by
  cases s? with
  | none => rw [ofOption, refusalWithin?]
  | some s => exact refusalWithin?_ofString s

end MapServices.Json
