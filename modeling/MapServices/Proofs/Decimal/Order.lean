import Mathlib.Data.Prod.Lex
import Mathlib.Order.Compare

/-!
# The order of doubles, and extremes of lists

Comparing two doubles is comparing their places in a linear order. Both zeros have one place, and a
double that is no number has none, so that no comparison holds of it.

* `le_iff`, `lt_iff`, `beq_iff`: the comparisons in terms of `place?`.
* `Direction` is what the upward and the downward comparisons have in common.
* `IsExtreme` says that a double is the first of a list in such a direction. What is no number
  counts only if nothing in the list is one.
* `IsExtreme.sameNumber`: lists of the same doubles have the same extreme number.
-/

namespace MapServices.Decimal

open Float.Model (UnpackedFloat)

/-! ## Places -/

/-- A place among the numbers: the side of zero, then an exponent, then a mantissa. -/
abbrev Place : Type := ℤ ×ₗ ℤ ×ₗ ℤ

/-- The place with the given parts. -/
def Place.of (side exponent mantissa : ℤ) : Place := toLex (side, toLex (exponent, mantissa))

theorem Place.compare_of (s e m s' e' m' : ℤ) : compare (Place.of s e m) (Place.of s' e' m') =
    (compare s s').then ((compare e e').then (compare m m')) := rfl

/-- The place of a double whose parts are known. -/
def placeOf? : UnpackedFloat → Option Place
  | .notANumber => none
  | .infinity .negative => some (.of (-2) 0 0)
  | .finite .negative m e _ => some (.of (-1) (-e) (-m))
  | .zero _ => some (.of 0 0 0)
  | .finite .positive m e _ => some (.of 1 e m)
  | .infinity .positive => some (.of 2 0 0)

def place? (x : Float) : Option Place := placeOf? x.toModel.unpack

theorem compare_neg (a b : ℤ) : compare (-a) (-b) = (compare a b).swap := by
  rw [Int.compare_swap, Int.compare_eq_ite_lt, Int.compare_eq_ite_lt]
  split_ifs <;> first | rfl | omega

theorem compare_natCast (a b : ℕ) : compare (a : ℤ) (b : ℤ) = compare a b := by
  rw [Int.compare_eq_ite_lt, Nat.compare_eq_ite_lt]
  split_ifs <;> first | rfl | omega

theorem compare_eq (x y : UnpackedFloat) :
    x.compare y = (placeOf? x).bind fun p => (placeOf? y).map (compare p) := by
  -- only for two finite doubles on one side of zero do the exponents and mantissas count
  rcases x with (_ | _) | _ | _ | ⟨_ | _, m, e, _⟩ <;>
    rcases y with (_ | _) | _ | _ | ⟨_ | _, m', e', _⟩ <;> try rfl
  case finite.negative.finite.negative =>
    show some ((compare e e').then (compare m m')).swap =
      some (compare (Place.of (-1) (-e) (-m)) (Place.of (-1) (-e') (-m')))
    rw [Place.compare_of, compare_neg e, compare_neg (m : ℤ), compare_natCast, Ordering.swap_then]
    rfl
  case finite.positive.finite.positive =>
    show some ((compare e e').then (compare m m')) =
      some (compare (Place.of 1 e m) (Place.of 1 e' m'))
    rw [Place.compare_of, compare_natCast]
    rfl

variable {x y z : Float}

theorem compare_eq_some_iff {o : Ordering} : x.toModel.unpack.compare y.toModel.unpack = some o ↔
    ∃ p q, place? x = some p ∧ place? y = some q ∧ compare p q = o := by
  simp [compare_eq, place?, Option.bind_eq_some_iff, Option.map_eq_some_iff]

theorem lt_iff : x < y ↔ ∃ p q, place? x = some p ∧ place? y = some q ∧ p < q := by
  have h : x < y ↔ x.toModel.unpack.compare y.toModel.unpack = some .lt :=
    decide_eq_true_iff.trans beq_iff_eq
  simp only [h, compare_eq_some_iff, compare_lt_iff_lt]

theorem beq_iff : (x == y) = true ↔ ∃ p, place? x = some p ∧ place? y = some p := by
  have h : (x == y) = true ↔ x.toModel.unpack.compare y.toModel.unpack = some .eq :=
    beq_iff_eq (a := x.toModel.unpack.compare y.toModel.unpack)
  rw [h, compare_eq_some_iff]
  simp only [compare_eq_iff_eq]
  constructor
  · rintro ⟨p, q, hp, hq, rfl⟩
    exact ⟨p, hp, hq⟩
  · rintro ⟨p, hp, hq⟩
    exact ⟨p, p, hp, hq, rfl⟩

theorem le_iff : x ≤ y ↔ ∃ p q, place? x = some p ∧ place? y = some q ∧ p ≤ q := by
  have h : x ≤ y ↔ (x.toModel.unpack.compare y.toModel.unpack).any (·.isLE) := decide_eq_true_iff
  rw [h, Option.any_eq_true]
  simp only [compare_eq_some_iff, ← compare_le_iff_le, ← Ordering.isLE_iff_ne_gt]
  constructor
  · rintro ⟨o, ⟨p, q, hp, hq, rfl⟩, ho⟩
    exact ⟨p, q, hp, hq, ho⟩
  · rintro ⟨p, q, hp, hq, ho⟩
    exact ⟨_, ⟨p, q, hp, hq, rfl⟩, ho⟩

theorem isNaN_iff : x.isNaN = true ↔ place? x = none := by
  show x.toModel.unpack.isNaN = true ↔ placeOf? x.toModel.unpack = none
  cases x.toModel.unpack with
  | notANumber => exact ⟨fun _ => rfl, fun _ => rfl⟩
  | zero s => exact ⟨nofun, nofun⟩
  | infinity s => cases s <;> exact ⟨nofun, nofun⟩
  | finite s m e h => cases s <;> exact ⟨nofun, nofun⟩

/-- Both are the same number, whatever the sign of a zero, or neither is a number. -/
def SameNumber (x y : Float) : Prop := (x == y) = true ∨ x.isNaN ∧ y.isNaN

/-! ## Directions -/

/-- A comparison in one direction, and its strict form. -/
structure Direction (strict R : Float → Float → Prop) : Prop where
  isNumber : ∀ {x y}, R x y → ¬ x.isNaN ∧ ¬ y.isNaN
  trans : ∀ {x y z}, R x y → R y z → R x z
  beq_of_both : ∀ {x y}, R x y → R y x → (x == y) = true
  of_strict : ∀ {x y}, strict x y → R x y
  of_not_strict : ∀ {x y}, ¬ x.isNaN → ¬ y.isNaN → ¬ strict y x → R x y

/-- From the least number to the greatest. -/
theorem direction_up : Direction (· < ·) (· ≤ ·) where
  isNumber h := by
    obtain ⟨p, q, hp, hq, -⟩ := le_iff.1 h
    rw [isNaN_iff, isNaN_iff, hp, hq]
    exact ⟨Option.some_ne_none p, Option.some_ne_none q⟩
  trans h h' := by
    obtain ⟨p, q, hp, hq, hpq⟩ := le_iff.1 h
    obtain ⟨q', r, hq', hr, hqr⟩ := le_iff.1 h'
    cases hq.symm.trans hq'
    exact le_iff.2 ⟨p, r, hp, hr, hpq.trans hqr⟩
  beq_of_both h h' := by
    obtain ⟨p, q, hp, hq, hpq⟩ := le_iff.1 h
    obtain ⟨q', p', hq', hp', hqp⟩ := le_iff.1 h'
    cases hp.symm.trans hp'
    cases hq.symm.trans hq'
    cases le_antisymm hpq hqp
    exact beq_iff.2 ⟨p, hp, hq⟩
  of_strict h := by
    obtain ⟨p, q, hp, hq, hpq⟩ := lt_iff.1 h
    exact le_iff.2 ⟨p, q, hp, hq, hpq.le⟩
  of_not_strict hx hy h := by
    obtain ⟨p, hp⟩ := Option.ne_none_iff_exists'.1 (mt isNaN_iff.2 hx)
    obtain ⟨q, hq⟩ := Option.ne_none_iff_exists'.1 (mt isNaN_iff.2 hy)
    exact le_iff.2 ⟨p, q, hp, hq, not_lt.1 fun hlt => h (lt_iff.2 ⟨q, p, hq, hp, hlt⟩)⟩

/-- From the greatest number to the least. -/
theorem direction_down : Direction (· > ·) (· ≥ ·) where
  isNumber h := (direction_up.isNumber h).symm
  trans h h' := direction_up.trans h' h
  beq_of_both h h' := direction_up.beq_of_both h' h
  of_strict h := direction_up.of_strict h
  of_not_strict hx hy h := direction_up.of_not_strict hy hx h

/-! ## Extremes -/

/-- The double is in the list, and comes before all numbers in it. -/
structure IsExtreme (R : Float → Float → Prop) (l : List Float) (x : Float) : Prop where
  mem : x ∈ l
  before : ∀ y ∈ l, y.isNaN ∨ R x y

namespace IsExtreme

variable {strict R : Float → Float → Prop} {l l' : List Float}

/-- What is no number is an extreme only if there are no numbers. -/
theorem isNaN_iff (hR : Direction strict R) (h : IsExtreme R l x) :
    x.isNaN ↔ ∀ y ∈ l, y.isNaN := by
  constructor
  · intro hx y hy
    rcases h.before y hy with hnan | hxy
    · exact hnan
    · exact absurd hx (hR.isNumber hxy).1
  · intro hall
    exact hall x h.mem

theorem singleton (hR : Direction strict R) (x : Float) : IsExtreme R [x] x := by
  refine ⟨List.mem_singleton_self x, fun y hy => ?_⟩
  rw [List.mem_singleton.1 hy]
  by_cases hx : x.isNaN
  · exact .inl hx
  · by_cases hs : strict x x
    · exact .inr (hR.of_strict hs)
    · exact .inr (hR.of_not_strict hx hx hs)

/-- The extreme of two lists is that of their extremes. -/
theorem append (hR : Direction strict R) (hx : IsExtreme R l x) (hy : IsExtreme R l' y)
    (hz : IsExtreme R [x, y] z) : IsExtreme R (l ++ l') z := by
  -- the numbers of a list come after its extreme, and that after `z`
  have hafter : ∀ {l v}, IsExtreme R l v → v ∈ [x, y] → ∀ w ∈ l, w.isNaN ∨ R z w := by
    intro l v hv hmem w hw
    rcases hv.before w hw with hnan | hvw
    · exact .inl hnan
    · rcases hz.before v hmem with hnan | hzv
      · exact absurd hnan (hR.isNumber hvw).1
      · exact .inr (hR.trans hzv hvw)
  constructor
  · rcases List.mem_cons.1 hz.mem with hzx | hzy
    · exact List.mem_append_left _ (hzx ▸ hx.mem)
    · exact List.mem_append_right _ (List.mem_singleton.1 hzy ▸ hy.mem)
  · intro w hw
    rcases List.mem_append.1 hw with hw | hw
    · exact hafter hx (by simp) w hw
    · exact hafter hy (by simp) w hw

/-- Lists of the same doubles have the same extreme number. -/
theorem sameNumber (hR : Direction strict R) (hx : IsExtreme R l x) (hy : IsExtreme R l' y)
    (h : ∀ w, w ∈ l ↔ w ∈ l') : SameNumber x y := by
  rcases hx.before y ((h y).2 hy.mem) with hnan | hxy
  · have hall := (hy.isNaN_iff hR).1 hnan
    exact .inr ⟨(hx.isNaN_iff hR).2 fun w hw => hall w ((h w).1 hw), hnan⟩
  · rcases hy.before x ((h x).1 hx.mem) with hnan | hyx
    · exact absurd hnan (hR.isNumber hxy).1
    · exact .inl (hR.beq_of_both hxy hyx)

theorem of_pair (hmem : z = x ∨ z = y) (hx : x.isNaN ∨ R z x) (hy : y.isNaN ∨ R z y) :
    IsExtreme R [x, y] z := by
  refine ⟨by simpa using hmem, fun w hw => ?_⟩
  rcases List.mem_cons.1 hw with rfl | hw
  · exact hx
  · rwa [List.mem_singleton.1 hw]

/-- Of two doubles the second is the extreme if the first is no number or comes after it. -/
theorem pick [DecidableRel strict] (hR : Direction strict R) (x y : Float) :
    IsExtreme R [x, y] (if x.isNaN then y else if strict y x then y else x) := by
  have hself : ∀ w : Float, w.isNaN ∨ R w w :=
    fun w => (singleton hR w).before w (List.mem_singleton_self w)
  split_ifs with hx hlt
  · exact of_pair (.inr rfl) (.inl hx) (hself y)
  · exact of_pair (.inr rfl) (.inr (hR.of_strict hlt)) (hself y)
  · refine of_pair (.inl rfl) (hself x) ?_
    by_cases hy : y.isNaN
    · exact .inl hy
    · exact .inr (hR.of_not_strict hx hy hlt)

end IsExtreme

/-- The extreme of a list, if the list is not empty. -/
def ExtremeOf (R : Float → Float → Prop) (l : List Float) : Option Float → Prop
  | none => l = []
  | some x => IsExtreme R l x

namespace ExtremeOf

variable {strict R : Float → Float → Prop} {l l' : List Float} {x? : Option Float}

theorem eq_none_iff (h : ExtremeOf R l x?) : x? = none ↔ l = [] := by
  cases x? with
  | none => exact ⟨fun _ => h, fun _ => rfl⟩
  | some x => exact ⟨nofun, fun hl => absurd h.mem (by simp [hl])⟩

/-- The extreme of a list with more doubles put behind it. -/
theorem append {choose : Float → Float → Float} (hR : Direction strict R)
    (hchoose : ∀ x y, IsExtreme R [x, y] (choose x y)) (hx : ExtremeOf R l x?)
    (hy : IsExtreme R l' y) : ExtremeOf R (l ++ l') (some ((x?.map (choose · y)).getD y)) := by
  cases x? with
  | none =>
    rw [show l = [] from hx]
    exact hy
  | some x => exact IsExtreme.append hR hx hy (hchoose x y)

/-- Lists of the same doubles have the same extreme number, or none. -/
theorem rel_sameNumber {y? : Option Float} (hR : Direction strict R) (hx : ExtremeOf R l x?)
    (hy : ExtremeOf R l' y?) (h : ∀ w, w ∈ l ↔ w ∈ l') : Option.Rel SameNumber x? y? := by
  have hnil : l = [] ↔ l' = [] := by simp only [List.eq_nil_iff_forall_not_mem, h]
  cases x? with
  | none =>
    rw [hy.eq_none_iff.2 (hnil.1 hx)]
    exact .none
  | some x =>
    cases y? with
    | none => exact absurd (hx.eq_none_iff.2 (hnil.2 hy)) (by simp)
    | some y => exact .some (hx.sameNumber hR hy h)

end ExtremeOf

end MapServices.Decimal
