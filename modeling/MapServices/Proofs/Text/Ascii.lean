import MapServices.Text.Ascii

/-!
# Letter case of ASCII characters, and the search for a text in a text

* `forall_ascii`, `forall_digit`: what holds of 128 numbers holds of all ASCII characters, and what
  holds of ten of them of all digits.
* `toLower_toLower`: a character in lower case stays as it is.
* `lower_upper`, `upper_lower`: the last change of letter case is the one that counts.
* `occursIn_iff`: a text is found where it is a part of another.
* `cut?_append`, `not_isInfix_of_cut?`: a text is cut at the first occurrence of what is searched
  for.
-/

namespace MapServices.Text

theorem toNat_ofNat {n : Nat} (h : n.isValidChar) : (Char.ofNat n).toNat = n := by
  unfold Char.ofNat
  rw [dif_pos h]
  rfl

theorem forall_ascii {p : Char → Prop} (h : ∀ n ∈ List.range 128, p (Char.ofNat n)) {c : Char}
    (hc : c.toNat < 128) : p c := by
  have hp := h c.toNat (List.mem_range.2 hc)
  rwa [Char.ofNat_toNat] at hp

theorem forall_digit {p : Char → Prop} (h : ∀ n ∈ List.range' 48 10, p (Char.ofNat n)) {c : Char}
    (hc : c.isDigit) : p c := by
  have hrange : 48 ≤ c.toNat ∧ c.toNat ≤ 57 := Char.isDigit_iff_toNat.1 hc
  have hp := h c.toNat (List.mem_range'_1.2 (by omega))
  rwa [Char.ofNat_toNat] at hp

theorem toNat_lt_of_isAlphanum {c : Char} (h : c.isAlphanum) : c.toNat < 128 := by
  have hbound : ∀ {d : Char}, c.val ≤ d.val → d.toNat < 128 → c.toNat < 128 := by
    intro d hle hd
    exact Nat.lt_of_le_of_lt (UInt32.le_iff_toNat_le.1 hle) hd
  rcases Bool.or_eq_true_iff.1 h with halpha | hdigit
  · rcases Bool.or_eq_true_iff.1 halpha with hupper | hlower
    · have hle : c.val ≤ 'Z'.val := (of_decide_eq_true hupper).2
      exact hbound hle (by decide)
    · have hle : c.val ≤ 'z'.val := of_decide_eq_true (Bool.and_eq_true_iff.1 hlower).2
      exact hbound hle (by decide)
  · have hle : c.toNat ≤ 57 := (Char.isDigit_iff_toNat.1 hdigit).2
    omega

theorem toLower_of_foreign {c : Char} (h : 128 ≤ c.toNat) : c.toLower = c := by
  unfold Char.toLower
  apply dif_neg
  intro hcapital
  have hle : c.toNat ≤ 90 := UInt32.le_iff_toNat_le.1 hcapital.2
  omega

theorem toLower_toLower (c : Char) : c.toLower.toLower = c.toLower := by
  by_cases h : c.toNat < 128
  · exact forall_ascii (p := fun c => c.toLower.toLower = c.toLower) (by decide +kernel) h
  · have hforeign := toLower_of_foreign (show 128 ≤ c.toNat by omega)
    rw [hforeign, hforeign]

theorem toUpper_of_foreign {c : Char} (h : 128 ≤ c.toNat) : c.toUpper = c := by
  unfold Char.toUpper
  apply dif_neg
  intro hsmall
  have hle : c.toNat ≤ 122 := UInt32.le_iff_toNat_le.1 hsmall.2
  omega

theorem toLower_toUpper (c : Char) : c.toUpper.toLower = c.toLower := by
  by_cases h : c.toNat < 128
  · exact forall_ascii (p := fun c => c.toUpper.toLower = c.toLower) (by decide +kernel) h
  · rw [toUpper_of_foreign (by omega)]

theorem toUpper_toLower (c : Char) : c.toLower.toUpper = c.toUpper := by
  by_cases h : c.toNat < 128
  · exact forall_ascii (p := fun c => c.toLower.toUpper = c.toUpper) (by decide +kernel) h
  · rw [toLower_of_foreign (by omega)]

/-- The last change of letter case is the one that counts. -/
theorem lower_upper (s : List Char) : lower (upper s) = lower s := by
  rw [lower, upper, List.map_map]
  exact List.map_congr_left fun c _ => toLower_toUpper c

theorem upper_lower (s : List Char) : upper (lower s) = upper s := by
  rw [lower, upper, List.map_map]
  exact List.map_congr_left fun c _ => toUpper_toLower c

/-! ## Searching -/

theorem occursIn_iff {needle s : List Char} : occursIn needle s ↔ needle <:+: s := by
  induction s with
  | nil => simp [occursIn]
  | cons c s ih =>
    rw [occursIn, Bool.or_eq_true_iff, List.isPrefixOf_iff_prefix, ih, List.infix_cons_iff]

/-- A text is cut at the first occurrence of what is searched for. -/
theorem cut?_append {needle before : List Char}
    (h : ¬ needle <:+: before ++ needle.dropLast) (hne : needle ≠ []) (after : List Char) :
    cut? needle (before ++ needle ++ after) = some (before, after) := by
  induction before with
  | nil =>
    obtain ⟨c, s, rfl⟩ := List.exists_cons_of_ne_nil hne
    have hstart : (c :: s).isPrefixOf (c :: (s ++ after)) :=
      List.isPrefixOf_iff_prefix.2 ⟨after, rfl⟩
    rw [List.nil_append, List.cons_append, cut?, if_pos hstart, ← List.cons_append, List.drop_left]
  | cons c before ih =>
    have hlater : ¬ needle <:+: before ++ needle.dropLast :=
      fun hoccurs => h (hoccurs.trans (List.suffix_cons c _).isInfix)
    have hhere : ¬ needle.isPrefixOf (c :: (before ++ needle ++ after)) := by
      intro hstart
      refine h (List.IsPrefix.isInfix ?_)
      have hwhole : c :: before ++ needle.dropLast <+: c :: (before ++ needle ++ after) := by
        refine ⟨needle.getLast hne :: after, ?_⟩
        have hlast : needle.dropLast ++ needle.getLast hne :: after = needle ++ after := by
          rw [← List.singleton_append, ← List.append_assoc, List.dropLast_concat_getLast]
        rw [List.append_assoc, hlast, List.cons_append, List.append_assoc]
      refine List.prefix_of_prefix_length_le (List.isPrefixOf_iff_prefix.1 hstart) hwhole ?_
      simp
      omega
    rw [List.cons_append, List.cons_append, cut?, if_neg hhere, ih hlater]
    rfl

theorem cut?_eq_none_iff {needle s : List Char} : cut? needle s = none ↔ ¬ needle <:+: s := by
  induction s with
  | nil => simp [cut?]
  | cons c s ih =>
    rw [cut?, List.infix_cons_iff, not_or, ← ih]
    by_cases hstart : needle <+: c :: s
    · rw [if_pos (List.isPrefixOf_iff_prefix.2 hstart)]
      exact iff_of_false (Option.some_ne_none _) fun h => h.1 hstart
    · rw [if_neg (mt List.isPrefixOf_iff_prefix.1 hstart), Option.map_eq_none_iff,
        and_iff_right hstart]

/-- Nothing that is searched for ends before the place where the text is cut. -/
theorem not_isInfix_of_cut? {needle s before after : List Char} (hne : needle ≠ [])
    (h : cut? needle s = some (before, after)) : ¬ needle <:+: before ++ needle.dropLast := by
  induction s generalizing before with
  | nil => simp [cut?, hne] at h
  | cons c s ih =>
    rw [cut?] at h
    split at h
    · cases h
      intro hoccurs
      have hlength := hoccurs.length_le
      have hpos := List.length_pos_iff.2 hne
      rw [List.nil_append, List.length_dropLast] at hlength
      omega
    · rename_i hstart
      obtain ⟨⟨front, rest⟩, hcut, heq⟩ := Option.map_eq_some_iff.1 h
      cases heq
      rw [List.cons_append, List.infix_cons_iff, not_or]
      refine ⟨fun hprefix => hstart (List.isPrefixOf_iff_prefix.2 ?_), ih hcut⟩
      refine hprefix.trans (List.cons_prefix_cons.2 ⟨rfl, ?_⟩)
      rw [cut?_eq_some hcut, List.append_assoc, List.prefix_append_right_inj]
      exact (List.dropLast_prefix needle).trans (List.prefix_append _ _)

end MapServices.Text
