import MapServices.Json.Number
import MapServices.Proofs.Json.Text

/-!
# Written numbers

A finite double is written as a number in the grammar of JSON, whatever its digits are and wherever
its point is. An integer is written with all its digits, and read back if it fits 64 bits.

* `Decimal.Binary.shortest_digits`: only zero is written with the digit zero alone.
* `Decimal.Layout.isNumber_render`: what is written is a number.
* `Json.isWritten_ofFloat`: any double makes a value that is read back from its text.
* `Json.integer?_toString`: an integer is read as it was written.
-/

namespace MapServices

namespace Decimal

open Json

/-! ## The digits of a double -/

namespace Number

theorem normalize_digits_ne_zero (n : Number) (h : n.digits ≠ 0) : n.normalize.digits ≠ 0 := by
  induction n using normalize.induct with
  | case1 d e hd ih =>
    rw [normalize, dif_pos hd]
    refine ih fun hzero => ?_
    have hzero : d / 10 = 0 := hzero
    omega
  | case2 d e hd =>
    rw [normalize, dif_neg hd]
    exact h

end Number

namespace Binary

variable {x : Binary}

theorem compareScaled_zero {n : Nat} (hn : 0 < n) (i j : Int) : compareScaled 0 i n j = .lt := by
  rw [compareScaled, Nat.zero_mul, Nat.zero_mul, Nat.compare_eq_lt]
  exact Nat.mul_pos (Nat.mul_pos hn (Nat.pow_pos (by decide))) (Nat.pow_pos (by decide))

/-- Zero rounds to no other number. -/
theorem readsBack_digits_ne_zero (hx : x.m ≠ 0) {d : Number} (h : x.readsBack d) :
    d.digits ≠ 0 := by
  intro hzero
  have hlow : 0 < if x.narrowBelow then 4 * x.m - 1 else 4 * x.m - 2 := by
    split <;> omega
  simp [readsBack, hzero, compareScaled_zero hlow] at h

theorem onGrid?_digits_ne_zero (hx : x.m ≠ 0) {tie : Tie} {e : Int} {d : Number}
    (h : x.onGrid? tie e = some d) : d.digits ≠ 0 := by
  refine readsBack_digits_ne_zero hx ?_
  unfold onGrid? at h
  cases hlow : x.readsBack ⟨x.floorOn e, e⟩ <;> cases hhigh : x.readsBack ⟨x.floorOn e + 1, e⟩ <;>
    simp only [hlow, hhigh] at h
  · cases h
  · cases h
    exact hhigh
  · cases h
    exact hlow
  · -- both neighbours read back, and one of them is taken
    split at h <;> try split at h
    all_goals
      cases h
      assumption

theorem exact_digits_ne_zero (hx : x.m ≠ 0) : x.exact.digits ≠ 0 := by
  have hpos : 0 < x.m * Nat.pow 2 x.q.toNat * Nat.pow 5 (-x.q).toNat :=
    Nat.mul_pos (Nat.mul_pos (by omega) (Nat.pow_pos (by decide))) (Nat.pow_pos (by decide))
  exact Nat.ne_of_gt hpos

/-- Only zero is written with the digit zero alone, and then it has no exponent. -/
theorem shortest_digits (x : Binary) (tie : Tie) (h : (x.shortest tie).digits = 0) :
    (x.shortest tie).exponent = 0 := by
  unfold shortest at h ⊢
  split
  · rfl
  · rename_i hx
    rw [if_neg hx] at h
    refine absurd h (Number.normalize_digits_ne_zero _ ?_)
    generalize hgrids : (List.range 17).map (fun (n : Nat) => x.scale - ((n : Int) + 1)) = grids
    cases hfound : grids.findSome? (x.onGrid? tie) with
    | none => exact exact_digits_ne_zero hx
    | some d =>
      obtain ⟨e, -, he⟩ := List.exists_of_findSome?_eq_some hfound
      exact onGrid?_digits_ne_zero hx he

end Binary

/-! ## The layout of digits -/

theorem isDigits_digitsOf (n : Nat) : IsDigits (digitsOf n) :=
  ⟨Nat.toDigits_ne_nil, fun _ hc => Nat.isDigit_of_mem_toDigits (by decide) (by decide) hc⟩

theorem head?_digitsOf {n : Nat} (h : n ≠ 0) : (digitsOf n).head? ≠ some '0' := by
  unfold digitsOf
  induction n using Nat.strongRecOn with
  | _ n ih =>
    rw [Nat.toDigits_eq_if (by decide)]
    split
    · rename_i hn
      have hall : ∀ d < 10, d ≠ 0 → Nat.digitChar d ≠ '0' := by decide
      simpa using hall n hn h
    · rename_i hn
      have hrest := ih (n / 10) (Nat.div_lt_self (by omega) (by decide)) (by omega)
      rw [List.head?_append_of_ne_nil _ Nat.toDigits_ne_nil]
      exact hrest

theorem isWhole_digitsOf (n : Nat) : IsWhole (digitsOf n) := by
  by_cases h : n = 0
  · subst h
    exact .inl rfl
  · exact .inr ⟨isDigits_digitsOf n, head?_digitsOf h⟩

namespace Layout

/-- A number without a sign. -/
def IsUnsigned (s : List Char) : Prop :=
  ∃ whole fraction exponent, s = whole ++ fraction ++ exponent ∧ IsWhole whole ∧
    IsFraction fraction ∧ IsExponent exponent

theorem isWhole_singleton {c : Char} (h : c.isDigit) : IsWhole [c] := by
  by_cases hzero : c = '0'
  · exact .inl (by rw [hzero])
  · exact .inr ⟨⟨List.cons_ne_nil _ _, by simpa using h⟩, by simpa using hzero⟩

theorem isDigits_append_zeros {digits : List Char} (h : IsDigits digits) (n : Nat) :
    IsDigits (digits ++ List.replicate n '0') := by
  refine ⟨List.append_ne_nil_of_left_ne_nil h.1 _, fun c hc => ?_⟩
  rcases List.mem_append.1 hc with hc | hc
  · exact h.2 c hc
  · rw [List.eq_of_mem_replicate hc]
    rfl

theorem isUnsigned_scientificText {digits : List Char} (h : IsDigits digits) (leading : Int) :
    IsUnsigned (scientificText digits leading) := by
  have hexponent : IsExponent ('e' :: (if leading < 0 then '-' else '+') ::
      digitsOf leading.natAbs) := by
    refine .inr ⟨_, _, ?_, isDigits_digitsOf _, rfl⟩
    split <;> simp
  match digits, h with
  | [], h => exact absurd rfl h.1
  | [d], h =>
    exact ⟨[d], [], _, rfl, isWhole_singleton (h.2 d List.mem_cons_self), .inl rfl, hexponent⟩
  | d :: e :: rest, h =>
    refine ⟨[d], '.' :: e :: rest, _, rfl, isWhole_singleton (h.2 d List.mem_cons_self), ?_,
      hexponent⟩
    refine .inr ⟨e :: rest, ⟨List.cons_ne_nil _ _, fun c hc => ?_⟩, rfl⟩
    exact h.2 c (List.mem_cons_of_mem _ hc)

/-- Zeros behind the digits make a longer number, unless the digits are those of zero. -/
theorem isWhole_append_zeros {n : Nat} {zeros : Nat} (h : n = 0 → zeros = 0) :
    IsWhole (digitsOf n ++ List.replicate zeros '0') := by
  by_cases hn : n = 0
  · rw [h hn, List.replicate_zero, List.append_nil]
    exact isWhole_digitsOf n
  · refine .inr ⟨isDigits_append_zeros (isDigits_digitsOf n) zeros, ?_⟩
    rw [List.head?_append_of_ne_nil _ (isDigits_digitsOf n).1]
    exact head?_digitsOf hn

theorem isUnsigned_positionalText (l : Layout) {n : Nat} {exponent : Int}
    (h : n = 0 → exponent = 0) : IsUnsigned (l.positionalText (digitsOf n) exponent) := by
  have hdigits := isDigits_digitsOf n
  unfold positionalText
  split
  · rename_i hexponent
    refine ⟨_, if l.pointZero then ['.', '0'] else [], [], (List.append_nil _).symm,
      isWhole_append_zeros fun hn => by rw [h hn]; rfl, ?_, .inl rfl⟩
    split
    · exact .inr ⟨['0'], ⟨List.cons_ne_nil _ _, by simp⟩, rfl⟩
    · exact .inl rfl
  · rename_i hexponent
    have hn : n ≠ 0 := fun hn => hexponent (h hn ▸ Int.le_refl 0)
    have hpos : 0 < (-exponent).toNat := by omega
    dsimp only
    generalize (-exponent).toNat = places at hpos
    split
    · -- the point stands among the digits
      rename_i hplaces
      have hbefore : (digitsOf n).length - places ≠ 0 := by omega
      refine ⟨_, '.' :: (digitsOf n).drop _, [], (List.append_nil _).symm,
        .inr ⟨⟨?_, fun c hc => hdigits.2 c (List.mem_of_mem_take hc)⟩, ?_⟩,
        .inr ⟨_, ⟨?_, fun c hc => hdigits.2 c (List.mem_of_mem_drop hc)⟩, rfl⟩, .inl rfl⟩
      · simp only [ne_eq, List.take_eq_nil_iff, not_or]
        exact ⟨hbefore, hdigits.1⟩
      · rw [List.head?_take, if_neg hbefore]
        exact head?_digitsOf hn
      · simp only [ne_eq, List.drop_eq_nil_iff]
        omega
    · refine ⟨['0'], '.' :: (_ ++ _), [], (List.append_nil _).symm, .inl rfl,
        .inr ⟨_, ⟨List.append_ne_nil_of_right_ne_nil _ hdigits.1, fun c hc => ?_⟩, rfl⟩, .inl rfl⟩
      rcases List.mem_append.1 hc with hc | hc
      · rw [List.eq_of_mem_replicate hc]
        rfl
      · exact hdigits.2 c hc

theorem isUnsigned_numberText (l : Layout) {n : Number} (h : n.digits = 0 → n.exponent = 0) :
    IsUnsigned (l.numberText n) := by
  unfold numberText
  dsimp only
  split
  · exact l.isUnsigned_positionalText h
  · exact isUnsigned_scientificText (isDigits_digitsOf n.digits) _

theorem isNumber_render (l : Layout) {x : Float} (hnan : x.isNaN = false) (hinf : x.isInf = false) :
    IsNumber (l.render x).toList := by
  obtain ⟨whole, fraction, exponent, htext, hwhole, hfraction, hexponent⟩ :=
    l.isUnsigned_numberText (Binary.shortest_digits (Binary.ofBits x.toBits) l.tie)
  simp only [render, hnan, hinf, Bool.false_eq_true, if_false, htext, String.toList_ofList]
  rw [← List.append_assoc, ← List.append_assoc]
  refine .mk ?_ hwhole hfraction hexponent
  split
  · exact .inr rfl
  · exact .inl rfl

end Layout

end Decimal

/-! ## Doubles as values -/

namespace Json

theorem isNaN_of_isFinite {x : Float} (h : x.isFinite) : x.isNaN = false := by
  unfold Float.isFinite Float.Model.isFinite at h
  unfold Float.isNaN Float.Model.isNaN
  cases hx : x.toModel.unpack <;> rw [hx] at h <;> first | rfl | cases h

theorem isInf_of_isFinite {x : Float} (h : x.isFinite) : x.isInf = false := by
  unfold Float.isFinite Float.Model.isFinite at h
  unfold Float.isInf Float.Model.isInf
  cases hx : x.toModel.unpack <;> rw [hx] at h <;> first | rfl | cases h

theorem isWritten_ofFloat (x : Float) : (ofFloat x).IsWritten := by
  unfold ofFloat
  split
  · rename_i h
    exact .number (Decimal.Layout.isNumber_render _ (isNaN_of_isFinite h) (isInf_of_isFinite h))
  · exact .null

/-! ## Integers as values -/

open Decimal

theorem toList_toString_natCast (n : Nat) : (toString (n : Int)).toList = digitsOf n :=
  Nat.toList_repr

theorem toList_toString_neg {n : Nat} (h : n ≠ 0) :
    (toString (-(n : Int))).toList = '-' :: digitsOf n := by
  obtain ⟨m, rfl⟩ := Nat.exists_eq_add_one_of_ne_zero h
  have htext : toString (-((m + 1 : Nat) : Int)) = "-" ++ (m + 1).repr := rfl
  rw [htext, String.toList_append, Nat.toList_repr]
  rfl

/-- An integer is written with a sign or without one. -/
theorem int_cases (n : Int) : (∃ m : Nat, n = m) ∨ ∃ m : Nat, m ≠ 0 ∧ n = -(m : Int) := by
  rcases Int.le_total 0 n with h | h
  · exact .inl ⟨n.toNat, by omega⟩
  · by_cases hzero : n = 0
    · exact .inl ⟨0, hzero⟩
    · exact .inr ⟨(-n).toNat, by omega, by omega⟩

theorem isWritten_ofInt (n : Int) : (ofInt n).IsWritten := by
  refine .number ?_
  obtain ⟨m, rfl⟩ | ⟨m, hm, rfl⟩ := int_cases n
  · have hnumber := IsNumber.mk (.inl rfl) (isWhole_digitsOf m) (.inl rfl) (.inl rfl)
    rw [toList_toString_natCast]
    simpa using hnumber
  · have hnumber := IsNumber.mk (.inr rfl) (isWhole_digitsOf m) (.inl rfl) (.inl rfl)
    rw [toList_toString_neg hm]
    simpa using hnumber

theorem isInteger_digitsOf (n : Nat) : isInteger (digitsOf n) := by
  rw [isInteger, List.all_eq_true]
  intro c hc
  rw [(isDigits_digitsOf n).2 c hc]
  rfl

theorem readSign_digitsOf (n : Nat) : readSign (digitsOf n) = (false, digitsOf n) := by
  obtain ⟨c, s, hs, hc⟩ := (isWhole_digitsOf n).head
  have hplus : c ≠ '+' := by
    rintro rfl
    exact absurd hc (by decide)
  have hminus : c ≠ '-' := by
    rintro rfl
    exact absurd hc (by decide)
  rw [hs, readSign.eq_def]
  split
  · rename_i heq
    exact absurd (List.cons.inj heq).1 hplus
  · rename_i heq
    exact absurd (List.cons.inj heq).1 hminus
  · rfl

theorem digitsValue_digitsOf (n : Nat) : digitsValue (digitsOf n) = n :=
  Nat.ofDigitChars_ten_toDigits

theorem integer?_toString {n : Int} (hlow : -0x8000000000000000 ≤ n)
    (hhigh : n < 0x8000000000000000) : integer? (toString n).toList = some n := by
  obtain ⟨m, rfl⟩ | ⟨m, hm, rfl⟩ := int_cases n
  · have hfits : m < 0x8000000000000000 := by omega
    rw [toList_toString_natCast]
    simp [integer?, readSign_digitsOf, digitsValue_digitsOf, isInteger_digitsOf, hfits]
  · have hinteger : isInteger ('-' :: digitsOf m) := isInteger_digitsOf m
    have hfits : 0 < m ∧ m ≤ 0x8000000000000000 := by omega
    rw [toList_toString_neg hm]
    simp [integer?, readSign, digitsValue_digitsOf, hinteger, hfits]

end Json

end MapServices
