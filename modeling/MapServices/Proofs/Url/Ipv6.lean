import MapServices.Proofs.Url.Ipv4
import MapServices.Url.Ipv6

/-!
# Written addresses of 128 bits

* `read?_print`: an address is read as it was written.
* `wellFormed_of_read?`: what is read are eight pieces of 16 bits.
-/

namespace MapServices.Url.Ipv6

/-- Eight pieces of 16 bits. -/
structure WellFormed (pieces : List Nat) : Prop where
  length : pieces.length = 8
  bound : ∀ p ∈ pieces, p < 16 ^ 4

/-! ### Pieces -/

theorem readPiece?_toDigits {p : Nat} (h : p < 16 ^ 4) :
    readPiece? (Nat.toDigits 16 p) = some p := by
  have hpos : 1 ≤ (Nat.toDigits 16 p).length := Nat.length_toDigits_pos
  have hle : (Nat.toDigits 16 p).length ≤ 4 :=
    (Nat.length_toDigits_le_iff (by decide) (by decide)).2 h
  simp only [readPiece?, hpos, hle, decide_true, Bool.and_self, if_true]
  exact Ipv4.valueIn?_toDigits (by decide) (Nat.le_refl 16) p

theorem lt_of_readPiece? {s : List Char} {p : Nat} (h : readPiece? s = some p) : p < 16 ^ 4 := by
  unfold readPiece? at h
  split at h
  · rename_i hlength
    simp only [Bool.and_eq_true, decide_eq_true_eq] at hlength
    exact Nat.lt_of_lt_of_le (Ipv4.valueIn?_lt h) (Nat.pow_le_pow_right (by decide) hlength.2)
  · cases h

/-- A digit of an address, in lower case. -/
def isHexDigit (c : Char) : Bool := c.isDigit || 'a' ≤ c && c ≤ 'f'

theorem isHexDigit_of_mem_toDigits {p : Nat} : ∀ c ∈ Nat.toDigits 16 p, isHexDigit c := by
  have hdigit : ∀ d, d < 16 → isHexDigit (Nat.digitChar d) := by
    intro d hd
    have hall : ∀ d ∈ List.range 16, isHexDigit (Nat.digitChar d) := by decide
    exact hall d (List.mem_range.2 hd)
  induction p using Nat.strongRecOn with
  | _ p ih =>
    rw [Nat.toDigits_eq_if (by decide)]
    split
    · rename_i hp
      intro c hc
      rw [List.mem_singleton.1 hc]
      exact hdigit p hp
    · intro c hc
      rcases List.mem_append.1 hc with hc | hc
      · exact ih _ (Nat.div_lt_self (by omega) (by decide)) c hc
      · rw [List.mem_singleton.1 hc]
        exact hdigit _ (Nat.mod_lt _ (by decide))

theorem ne_colon_of_mem_toDigits {p : Nat} {c : Char} (h : c ∈ Nat.toDigits 16 p) : c ≠ ':' := by
  rintro rfl
  exact absurd (isHexDigit_of_mem_toDigits ':' h) (by decide)

theorem splitOn_printPieces {pieces : List Nat} (h : pieces ≠ []) :
    (printPieces pieces).splitOn ':' = pieces.map (Nat.toDigits 16) := by
  refine List.splitOn_intercalate ':' (fun part hpart => ?_) (by simpa using h)
  obtain ⟨p, -, rfl⟩ := List.mem_map.1 hpart
  exact fun hmem => ne_colon_of_mem_toDigits hmem rfl

theorem mem_printPieces {pieces : List Nat} {c : Char} (h : c ∈ printPieces pieces) :
    isHexDigit c ∨ c = ':' := by
  rcases Lists.mem_intercalate h with rfl | ⟨part, hpart, hc⟩
  · exact Or.inr rfl
  · obtain ⟨p, -, rfl⟩ := List.mem_map.1 hpart
    exact Or.inl (isHexDigit_of_mem_toDigits c hc)

theorem printPieces_ne_nil {pieces : List Nat} (h : pieces ≠ []) : printPieces pieces ≠ [] := by
  intro hnil
  have hsplit := splitOn_printPieces h
  rw [hnil, List.splitOn_nil] at hsplit
  have hmem : [] ∈ pieces.map (Nat.toDigits 16) := hsplit ▸ List.mem_singleton_self []
  obtain ⟨p, -, hp⟩ := List.mem_map.1 hmem
  exact Nat.toDigits_ne_nil hp

/-- Pieces are read as they were written. -/
theorem readPieces?_printPieces {pieces : List Nat} (h : ∀ p ∈ pieces, p < 16 ^ 4)
    (atEnd : Bool) : readPieces? atEnd (printPieces pieces) = some pieces := by
  rcases List.eq_nil_or_concat pieces with rfl | ⟨front, last, rfl⟩
  · rfl
  · rw [List.concat_eq_append] at h ⊢
    have hne : front ++ [last] ≠ [] := by simp
    have hempty : (printPieces (front ++ [last])).isEmpty = false := by
      simpa using printPieces_ne_nil hne
    have hfront : (front.map (Nat.toDigits 16)).mapM readPiece? = some front := by
      rw [Lists.mapM_eq_some_iff, List.forall₂_map_left_iff, List.forall₂_same]
      exact fun p hp => readPiece?_toDigits (h p (List.mem_append_left _ hp))
    have hpoint : '.' ∉ Nat.toDigits 16 last := by
      intro hmem
      exact absurd (isHexDigit_of_mem_toDigits '.' hmem) (by decide)
    have hlast := readPiece?_toDigits (h last (by simp))
    simp only [readPieces?, hempty, Bool.false_eq_true, if_false, splitOn_printPieces hne]
    simp [hfront, hpoint, hlast]

theorem le_of_readByte? {s : List Char} {b : Nat} (h : readByte? s = some b) : b ≤ 255 := by
  unfold readByte? at h
  split at h
  · cases h
    decide
  · cases h
  · cases h
  · split at h
    · rename_i hbounds
      simp only [Bool.and_eq_true, decide_eq_true_eq] at hbounds
      cases h
      exact hbounds.2
    · cases h

theorem lt_of_readDotted? {s : List Char} {pieces : List Nat} (h : readDotted? s = some pieces) :
    ∀ p ∈ pieces, p < 16 ^ 4 := by
  simp only [readDotted?, Option.bind_eq_bind, Option.bind_eq_some_iff] at h
  obtain ⟨numbers, hnumbers, h⟩ := h
  have hle : ∀ n ∈ numbers, n ≤ 255 := by
    intro n hn
    obtain ⟨part, -, hpart⟩ := Lists.exists_of_mapM hnumbers hn
    exact le_of_readByte? hpart
  split at h
  · cases h
    simp only [List.mem_cons, List.not_mem_nil, or_false, forall_eq_or_imp, forall_eq] at hle ⊢
    omega
  · cases h

theorem lt_of_readPieces? {atEnd : Bool} {s : List Char} {pieces : List Nat}
    (h : readPieces? atEnd s = some pieces) : ∀ p ∈ pieces, p < 16 ^ 4 := by
  unfold readPieces? at h
  split at h
  · cases h
    simp
  · simp only [Option.bind_eq_bind, Option.bind_eq_some_iff, Option.pure_def] at h
    obtain ⟨last, -, front, hfront, h⟩ := h
    have hpieces : ∃ back, (∀ p ∈ back, p < 16 ^ 4) ∧ pieces = front ++ back := by
      split at h
      · obtain ⟨back, hback, h⟩ := Option.bind_eq_some_iff.1 h
        exact ⟨back, lt_of_readDotted? hback, (Option.some.inj h).symm⟩
      · obtain ⟨back, hback, h⟩ := Option.bind_eq_some_iff.1 h
        obtain ⟨piece, hpiece, rfl⟩ := Option.map_eq_some_iff.1 hback
        refine ⟨[piece], ?_, (Option.some.inj h).symm⟩
        simpa using lt_of_readPiece? hpiece
    obtain ⟨back, hback, rfl⟩ := hpieces
    intro p hp
    rcases List.mem_append.1 hp with hp | hp
    · obtain ⟨part, -, hpart⟩ := Lists.exists_of_mapM hfront hp
      exact lt_of_readPiece? hpart
    · exact hback p hp

theorem wellFormed_of_read? {s : List Char} {pieces : List Nat} (h : read? s = some pieces) :
    WellFormed pieces := by
  unfold read? at h
  split at h
  · simp only [Option.bind_eq_bind, Option.bind_eq_some_iff] at h
    obtain ⟨a, ha, b, hb, h⟩ := h
    split at h
    · cases h
      refine ⟨by simp; omega, ?_⟩
      intro p hp
      simp only [List.mem_append, List.mem_replicate] at hp
      rcases hp with (hp | ⟨-, rfl⟩) | hp
      · exact lt_of_readPieces? ha p hp
      · decide
      · exact lt_of_readPieces? hb p hp
    · cases h
  · simp only [Option.bind_eq_bind, Option.bind_eq_some_iff] at h
    obtain ⟨a, ha, h⟩ := h
    split at h
    · cases h
      exact ⟨by assumption, lt_of_readPieces? ha⟩
    · cases h

/-! ### The double colon -/

/-- Before a character that is no colon there is no double colon. -/
theorem cut?_append_of_ne {digits : List Char} (h : ∀ c ∈ digits, c ≠ ':') (s : List Char) :
    Text.cut? [':', ':'] (digits ++ s) =
      (Text.cut? [':', ':'] s).map fun r => (digits ++ r.1, r.2) := by
  induction digits with
  | nil => simp
  | cons c digits ih =>
    have hc : (':' == c) = false := by
      simpa using (h c List.mem_cons_self).symm
    rw [List.cons_append, Text.cut?, ih fun d hd => h d (List.mem_cons_of_mem _ hd)]
    simp [List.isPrefixOf, hc, Function.comp_def]

/-- A colon before another character is no double colon. -/
theorem cut?_colon_cons {c : Char} (hc : c ≠ ':') (s : List Char) :
    Text.cut? [':', ':'] (':' :: c :: s) =
      (Text.cut? [':', ':'] (c :: s)).map fun r => (':' :: r.1, r.2) := by
  have hne : (':' == c) = false := by
    simpa using hc.symm
  rw [Text.cut?]
  simp [List.isPrefixOf, hne]

theorem printPieces_cons_cons (p q : Nat) (pieces : List Nat) :
    printPieces (p :: q :: pieces) = Nat.toDigits 16 p ++ ':' :: printPieces (q :: pieces) := by
  simp [printPieces, List.intercalate_cons_cons]

theorem exists_cons_of_printPieces (q : Nat) (pieces : List Nat) :
    ∃ c s, c ≠ ':' ∧ printPieces (q :: pieces) = c :: s := by
  obtain ⟨c, digits, hdigits⟩ := List.exists_cons_of_ne_nil (Nat.toDigits_ne_nil (n := q) (b := 16))
  have hc : c ≠ ':' := ne_colon_of_mem_toDigits (hdigits ▸ List.mem_cons_self)
  cases pieces with
  | nil => exact ⟨c, digits, hc, by simp [printPieces, hdigits]⟩
  | cons r pieces =>
    rw [printPieces_cons_cons, hdigits]
    exact ⟨c, _, hc, List.cons_append ..⟩

/-- The pieces before a double colon hold none. -/
theorem cut?_printPieces_append (pieces : List Nat) (s : List Char) :
    Text.cut? [':', ':'] (printPieces pieces ++ s) =
      (Text.cut? [':', ':'] s).map fun r => (printPieces pieces ++ r.1, r.2) := by
  induction pieces with
  | nil => simp [printPieces]
  | cons p pieces ih =>
    have hdigits : ∀ c ∈ Nat.toDigits 16 p, c ≠ ':' := fun _ => ne_colon_of_mem_toDigits
    cases pieces with
    | nil =>
      have hsingle : printPieces [p] = Nat.toDigits 16 p := by simp [printPieces]
      rw [hsingle]
      exact cut?_append_of_ne hdigits s
    | cons q pieces =>
      obtain ⟨c, rest, hc, hprint⟩ := exists_cons_of_printPieces q pieces
      rw [printPieces_cons_cons, List.append_assoc, List.cons_append, cut?_append_of_ne hdigits]
      rw [hprint] at ih ⊢
      rw [List.cons_append, cut?_colon_cons hc, ← List.cons_append, ih]
      simp [Function.comp_def]

theorem cut?_printPieces (pieces : List Nat) :
    Text.cut? [':', ':'] (printPieces pieces) = none := by
  have h := cut?_printPieces_append pieces []
  simpa [Text.cut?] using h

theorem cut?_printPieces_double (pieces : List Nat) (t : List Char) :
    Text.cut? [':', ':'] (printPieces pieces ++ ':' :: ':' :: t) =
      some (printPieces pieces, t) := by
  have h := cut?_printPieces_append pieces (':' :: ':' :: t)
  simpa [Text.cut?, List.isPrefixOf] using h

/-! ### Runs of zeros -/

theorem take_leadingZeros (pieces : List Nat) :
    pieces.take (leadingZeros pieces) = List.replicate (leadingZeros pieces) 0 := by
  have htake : pieces.take (leadingZeros pieces) = pieces.takeWhile (· = 0) :=
    (List.prefix_iff_eq_take.1 (List.takeWhile_prefix _)).symm
  rw [htake]
  refine List.eq_replicate_iff.2 ⟨rfl, fun p hp => ?_⟩
  simpa using List.all_eq_true.1 (List.all_takeWhile (l := pieces)) p hp

/-- The longest run is one of the runs that there are. -/
theorem longestZeros?_spec {pieces : List Nat} {start length : Nat}
    (h : longestZeros? pieces = some (start, length)) :
    2 ≤ length ∧ start < pieces.length ∧ length = leadingZeros (pieces.drop start) := by
  have hbest : ∀ (runs : List (Nat × Nat)) (best : Nat × Nat),
      runs.foldl (fun best run => if best.2 < run.2 then run else best) best = best ∨
        runs.foldl (fun best run => if best.2 < run.2 then run else best) best ∈ runs := by
    intro runs
    induction runs with
    | nil => exact fun _ => Or.inl rfl
    | cons run runs ih =>
      intro best
      rw [List.foldl_cons]
      by_cases hlt : best.2 < run.2
      · rw [if_pos hlt]
        rcases ih run with heq | hmem
        · rw [heq]
          exact Or.inr List.mem_cons_self
        · exact Or.inr (List.mem_cons_of_mem _ hmem)
      · rw [if_neg hlt]
        exact (ih best).imp_right (List.mem_cons_of_mem _)
  simp only [longestZeros?] at h
  split at h
  · rename_i htwo
    rcases hbest ((List.range pieces.length).map fun i => (i, leadingZeros (pieces.drop i)))
      (0, 1) with heq | hmem
    · rw [heq] at htwo
      exact absurd htwo (by decide)
    · rw [Option.some.inj h] at hmem htwo
      obtain ⟨i, hi, hrun⟩ := List.mem_map.1 hmem
      cases hrun
      exact ⟨htwo, List.mem_range.1 hi, rfl⟩
  · cases h

/-- An address is read as it was written. -/
theorem read?_print {pieces : List Nat} (h : WellFormed pieces) :
    read? (print pieces) = some pieces := by
  obtain ⟨hlength, hbound⟩ := h
  unfold print
  cases hzeros : longestZeros? pieces with
  | none =>
    simp only [read?, cut?_printPieces, readPieces?_printPieces hbound]
    simp [hlength]
  | some run =>
    obtain ⟨start, length⟩ := run
    obtain ⟨htwo, hstart, hrun⟩ := longestZeros?_spec hzeros
    have hzero : (pieces.drop start).take length = List.replicate length 0 := by
      rw [hrun]
      exact take_leadingZeros _
    have hfits : start + length ≤ 8 := by
      have hle := congrArg List.length hzero
      simp only [List.length_take, List.length_drop, List.length_replicate] at hle
      omega
    have hpieces : pieces.take start ++ List.replicate length 0 ++ pieces.drop (start + length) =
        pieces := by
      rw [← hzero, List.append_assoc, ← List.drop_drop, List.take_append_drop,
        List.take_append_drop]
    have hfront : readPieces? false (printPieces (pieces.take start)) = some (pieces.take start) :=
      readPieces?_printPieces (fun p hp => hbound p (List.mem_of_mem_take hp)) false
    have hback : readPieces? true (printPieces (pieces.drop (start + length))) =
        some (pieces.drop (start + length)) :=
      readPieces?_printPieces (fun p hp => hbound p (List.mem_of_mem_drop hp)) true
    have hcount : 8 - (pieces.take start).length - (pieces.drop (start + length)).length =
        length := by
      simp only [List.length_take, List.length_drop]
      omega
    have hseven : (pieces.take start).length + (pieces.drop (start + length)).length ≤ 7 := by
      simp only [List.length_take, List.length_drop]
      omega
    simp only [List.append_assoc, List.cons_append, List.nil_append, read?,
      cut?_printPieces_double, hfront, hback, Option.bind_eq_bind, Option.bind_some, hseven,
      if_true, hcount]
    rw [← List.append_assoc, hpieces]

theorem mem_print {pieces : List Nat} {c : Char} (h : c ∈ print pieces) :
    isHexDigit c ∨ c = ':' := by
  unfold print at h
  split at h
  · simp only [List.append_assoc, List.cons_append, List.nil_append, List.mem_append,
      List.mem_cons] at h
    rcases h with h | h | h | h
    · exact mem_printPieces h
    · exact Or.inr h
    · exact Or.inr h
    · exact mem_printPieces h
  · exact mem_printPieces h

end MapServices.Url.Ipv6
