import Mathlib.Data.List.DropRight
import MapServices.Proofs.Lists
import MapServices.Proofs.Text.Ascii
import MapServices.Text.Blank

/-!
# Trimmed texts, and words

* `trim_eq_self_iff`: a text is trimmed if it neither begins nor ends with white space.
* `trim_trim`: trimming leaves such a text.
* `isInfix_trim`: a part of a text without white space is left.
* `lower_trim`: white space has no letter case.
* `words_trim`: white space at the ends of a text holds no words.
-/

namespace MapServices.Text

variable {s t : List Char}

theorem trimEnd_eq_rdropWhile (s : List Char) : trimEnd s = s.rdropWhile isBlank := rfl

/-- A trimmed text begins with no white space. -/
theorem head?_trimStart (s : List Char) : ∀ c ∈ (trimStart s).head?, isBlank c = false := by
  intro c hc
  have h := List.head?_dropWhile_not isBlank s
  rw [Option.mem_def] at hc
  unfold trimStart at hc
  rw [hc] at h
  simpa using h

theorem trimStart_eq_self_iff : trimStart s = s ↔ ∀ c ∈ s.head?, isBlank c = false := by
  constructor
  · intro h
    rw [← h]
    exact head?_trimStart s
  · intro h
    cases s with
    | nil => rfl
    | cons c s => exact List.dropWhile_cons_of_neg (by simp [h c rfl])

theorem trimEnd_eq_self_iff : trimEnd s = s ↔ ∀ c ∈ s.getLast?, isBlank c = false := by
  rw [trimEnd, List.reverse_eq_iff, trimStart_eq_self_iff, List.head?_reverse]

theorem prefix_trimEnd (s : List Char) : trimEnd s <+: s := by
  rw [trimEnd_eq_rdropWhile]
  exact List.rdropWhile_prefix isBlank s

theorem trimEnd_trimEnd (s : List Char) : trimEnd (trimEnd s) = trimEnd s := by
  simp only [trimEnd_eq_rdropWhile]
  exact List.rdropWhile_idempotent isBlank s

/-- Cutting off the end of a text does not change how it begins. -/
theorem head?_of_isPrefix {α : Type} {s t : List α} (h : s <+: t) : ∀ c ∈ s.head?, c ∈ t.head? := by
  obtain ⟨u, rfl⟩ := h
  intro c hc
  cases s with
  | nil => cases hc
  | cons d s => exact hc

theorem trimStart_trim (s : List Char) : trimStart (trim s) = trim s := by
  apply trimStart_eq_self_iff.2
  intro c hc
  exact head?_trimStart s c (head?_of_isPrefix (prefix_trimEnd (trimStart s)) c hc)

theorem trim_trim (s : List Char) : trim (trim s) = trim s := by
  rw [trim, trimStart_trim, trim, trimEnd_trimEnd]

theorem trim_eq_self_iff : trim s = s ↔
    (∀ c ∈ s.head?, isBlank c = false) ∧ ∀ c ∈ s.getLast?, isBlank c = false := by
  rw [← trimStart_eq_self_iff, ← trimEnd_eq_self_iff]
  constructor
  · intro h
    refine ⟨?_, ?_⟩
    · rw [← h]
      exact trimStart_trim s
    · rw [← h, trim, trimEnd_trimEnd]
  · rintro ⟨hstart, hend⟩
    rw [trim, hstart, hend]

theorem trimStart_append (ht : ∀ c ∈ t.head?, isBlank c = false) (s : List Char) :
    trimStart (s ++ t) = trimStart s ++ t := by
  induction s with
  | nil => exact trimStart_eq_self_iff.2 ht
  | cons c s ih =>
    unfold trimStart at ih ⊢
    by_cases hc : isBlank c
    · rw [List.cons_append, List.dropWhile_cons_of_pos hc, List.dropWhile_cons_of_pos hc, ih]
    · rw [List.cons_append, List.dropWhile_cons_of_neg hc, List.dropWhile_cons_of_neg hc,
        List.cons_append]

theorem trimEnd_append (hs : ∀ c ∈ s.getLast?, isBlank c = false) (t : List Char) :
    trimEnd (s ++ t) = s ++ trimEnd t := by
  rw [trimEnd, List.reverse_append, trimStart_append (by rwa [List.head?_reverse]),
    List.reverse_append, List.reverse_reverse, trimEnd]

theorem trim_isInfix (s : List Char) : trim s <:+: s :=
  (prefix_trimEnd (trimStart s)).isInfix.trans (List.dropWhile_suffix _).isInfix

/-- A part of a text that begins with no white space is not cut off with that of its start. -/
theorem isInfix_trimStart {c : Char} (hc : isBlank c = false) (h : c :: t <:+: s) :
    c :: t <:+: trimStart s := by
  induction s with
  | nil => exact h
  | cons d s ih =>
    unfold trimStart at ih ⊢
    by_cases hd : isBlank d
    · rw [List.dropWhile_cons_of_pos hd]
      rcases List.infix_cons_iff.1 h with hstart | hlater
      · rw [(List.cons_prefix_cons.1 hstart).1, hd] at hc
        cases hc
      · exact ih hlater
    · rwa [List.dropWhile_cons_of_neg hd]

/-- A part of a text that white space neither begins nor ends is not cut off. -/
theorem isInfix_trim {word : List Char} (hne : word ≠ []) (hblank : ∀ c ∈ word, isBlank c = false)
    (h : word <:+: s) : word <:+: trim s := by
  have hkept : ∀ {word s : List Char}, word ≠ [] → (∀ c ∈ word, isBlank c = false) →
      word <:+: s → word <:+: trimStart s := by
    intro word s hne hblank h
    obtain ⟨c, word, rfl⟩ := List.exists_cons_of_ne_nil hne
    exact isInfix_trimStart (hblank c List.mem_cons_self) h
  rw [trim, trimEnd, ← List.reverse_infix, List.reverse_reverse]
  refine hkept (List.reverse_ne_nil_iff.2 hne) (fun c hc => hblank c (List.mem_reverse.1 hc)) ?_
  exact List.reverse_infix.2 (hkept hne hblank h)

theorem trimmed_trimmed (s : String) : trimmed (trimmed s) = trimmed s := by
  simp [trimmed, trim_trim]

theorem nonBlank?_eq_some_iff {s v : String} : nonBlank? s = some v ↔ v = trimmed s ∧ v ≠ "" := by
  simp only [nonBlank?, String.isEmpty_iff]
  split
  · rename_i hempty
    exact iff_of_false nofun fun h => h.2 (h.1.trans hempty)
  · rename_i hne
    rw [Option.some.injEq]
    constructor
    · rintro rfl
      exact ⟨rfl, hne⟩
    · exact fun h => h.1.symm

theorem trim_of_nonBlank? {s v : String} (h : nonBlank? s = some v) : trim v.toList = v.toList := by
  simp only [nonBlank?] at h
  split at h
  · cases h
  · cases h
    simp [trimmed, trim_trim]

theorem nonBlank?_of_nonBlank? {s v : String} (h : nonBlank? s = some v) :
    nonBlank? v = some v := by
  simp only [nonBlank?] at h ⊢
  split at h
  · cases h
  · cases h
    rwa [trimmed_trimmed, if_neg]

/-! ## Digits and letters -/

theorem isBlank_of_isDigit {c : Char} (h : c.isDigit) : isBlank c = false :=
  forall_digit (p := fun c => isBlank c = false) (by decide) h

theorem isBlank_toLower (c : Char) : isBlank c.toLower = isBlank c := by
  by_cases h : c.toNat < 128
  · exact forall_ascii (p := fun c => isBlank c.toLower = isBlank c) (by decide +kernel) h
  · rw [toLower_of_foreign (by omega)]

theorem lower_trimStart (s : List Char) : lower (trimStart s) = trimStart (lower s) := by
  have hblank : isBlank ∘ Char.toLower = isBlank := funext isBlank_toLower
  rw [lower, lower, trimStart, trimStart, List.dropWhile_map, hblank]

theorem lower_trim (s : List Char) : lower (trim s) = trim (lower s) := by
  have hreverse : ∀ t : List Char, lower t.reverse = (lower t).reverse :=
    fun t => List.map_reverse
  rw [trim, trim, trimEnd, trimEnd, hreverse, lower_trimStart, hreverse, lower_trimStart]

/-! ## Words -/

/-- White space ends a word, and is part of none. -/
theorem words_append_cons {c : Char} (hc : isBlank c) (s t : List Char) :
    words (s ++ c :: t) = words s ++ words t := by
  rw [words, List.splitOnP_append_cons s t hc, List.filter_append, words, words]

theorem words_nil : words [] = [] := rfl

theorem trim_of_mem_words {w : List Char} (h : w ∈ words s) : trim w = w := by
  have hblank : ∀ c ∈ w, isBlank c = false :=
    fun c hc => (Lists.mem_of_mem_splitOnP (List.mem_filter.1 h).1 c hc).2
  exact trim_eq_self_iff.2 ⟨fun c hc => hblank c (List.mem_of_mem_head? hc),
    fun c hc => hblank c (List.mem_of_mem_getLast? hc)⟩

theorem words_trimStart (s : List Char) : words (trimStart s) = words s := by
  induction s with
  | nil => rfl
  | cons c s ih =>
    unfold trimStart at ih ⊢
    by_cases hc : isBlank c
    · have hskip : words (c :: s) = words s := words_append_cons hc [] s
      rw [List.dropWhile_cons_of_pos hc, ih, hskip]
    · rw [List.dropWhile_cons_of_neg hc]

theorem words_trimEnd (s : List Char) : words (trimEnd s) = words s := by
  rw [trimEnd_eq_rdropWhile]
  induction s using List.reverseRecOn with
  | nil => rfl
  | append_singleton s c ih =>
    by_cases hc : isBlank c
    · rw [List.rdropWhile_concat_pos _ _ _ hc, ih, words_append_cons hc, words_nil, List.append_nil]
    · rw [List.rdropWhile_concat_neg _ _ _ hc]

theorem words_trim (s : List Char) : words (trim s) = words s := by
  rw [trim, words_trimEnd, words_trimStart]

/-- A text and what is left of it after trimming have the same words. -/
theorem flatMap_words_nonBlank? (s : String) :
    (nonBlank? s).toList.flatMap (fun t => words t.toList) = words s.toList := by
  rw [← words_trim]
  simp only [nonBlank?]
  split
  · rename_i h
    have hempty : trim s.toList = [] := by simpa [trimmed] using h
    rw [hempty]
    rfl
  · simp [trimmed]

end MapServices.Text
