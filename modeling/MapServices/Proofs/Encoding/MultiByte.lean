import Mathlib.Tactic.SplitIfs
import MapServices.Encoding.MultiByte
import MapServices.Proofs.Text.Ascii

/-!
# Sequences of several bytes

A sequence starts with a byte from 80 on, and no byte of it is an angle bracket. It gives characters
beyond ASCII or a fault. So the markup of a document can be told from its bytes.

* `MultiByte.piece_isForeign`: what a byte from 80 on starts.
* `MultiByte.decode_cons`: decoding goes on behind a piece as at the start.
-/

namespace MapServices.MultiByte

open Encoding (Indexes)

variable {indexes : Indexes} {b : UInt8} {rest : List UInt8} {c : Char}

/-- A piece that has nothing to do with ASCII: it gives something, but no character of ASCII, and
takes no angle bracket of the bytes behind its first one. -/
structure Piece.IsForeign (p : Piece) (rest : List UInt8) : Prop where
  nonempty : p.characters ≠ []
  beyond : ∀ c, some c ∈ p.characters → 0x80 ≤ c.toNat
  noBracket : 0x3C ∉ rest.take p.taken

theorem Piece.isForeign_fault {taken : Nat} (h : 0x3C ∉ rest.take taken) :
    (Piece.fault taken).IsForeign rest where
  nonempty := List.cons_ne_nil _ _
  beyond c hc := by simp [Piece.fault] at hc
  noBracket := h

theorem Piece.isForeign_characters {cs : List Char} {taken : Nat} (hne : cs ≠ [])
    (hcs : ∀ c ∈ cs, 0x80 ≤ c.toNat) (h : 0x3C ∉ rest.take taken) :
    Piece.IsForeign ⟨cs.map some, taken⟩ rest where
  nonempty := by simpa using hne
  beyond c hc := by
    obtain ⟨d, hd, hsome⟩ := List.mem_map.1 hc
    exact Option.some.inj hsome ▸ hcs d hd
  noBracket := h

theorem bracket_notMem_take_foreignCount (trail : UInt8) :
    0x3C ∉ (trail :: rest).take (foreignCount trail) := by
  unfold foreignCount
  split
  · simp
  · rename_i htrail
    rw [List.take_succ_cons, List.take_zero, List.mem_singleton]
    rintro rfl
    exact htrail (by decide)

theorem beyond_of_mem_entry {index : Nat → Option ForeignChar} {pointer : Nat}
    (h : c ∈ entry index pointer) : 0x80 ≤ c.toNat := by
  obtain ⟨d, -, rfl⟩ := List.mem_map.1 h
  exact d.property

theorem beyond_ofNat {n : Nat} (hn : n.isValidChar) (h : 0x80 ≤ n) :
    0x80 ≤ (Char.ofNat n).toNat := by
  rwa [Text.toNat_ofNat hn]

theorem beyond_katakana {n : Nat} (h : n ≤ 0xDF) : 0x80 ≤ (katakana n).toNat :=
  beyond_ofNat (by unfold Nat.isValidChar; omega) (by omega)

/-! ## Sequences of two bytes -/

/-- No character of ASCII is the character of a byte from 80 on or of two bytes, and no sequence
ends with an angle bracket. -/
structure DoubleByte.IsForeign (d : DoubleByte) : Prop where
  single : ∀ b, ∀ c ∈ d.single b, 0x80 ≤ c.toNat
  pair : ∀ lead trail, ∀ c ∈ d.pair lead trail, 0x80 ≤ c.toNat
  bracket : ∀ lead, d.pair lead 0x3C = []

theorem DoubleByte.IsForeign.piece {d : DoubleByte} (h : d.IsForeign) (hb : 0x80 ≤ b.toNat)
    (rest : List UInt8) : (d.piece b rest).IsForeign rest := by
  unfold DoubleByte.piece
  rw [if_neg (Nat.not_lt.2 hb)]
  split
  · rename_i c hsingle
    have hbeyond : ∀ d ∈ [c], 0x80 ≤ d.toNat :=
      List.forall_mem_singleton.2 (h.single _ c hsingle)
    exact Piece.isForeign_characters (List.cons_ne_nil _ _) hbeyond (by simp)
  split
  · split
    · exact Piece.isForeign_fault (by simp)
    · rename_i trail rest
      split
      · exact Piece.isForeign_fault (bracket_notMem_take_foreignCount trail)
      · rename_i c cs hpair
        refine Piece.isForeign_characters (by simp) (fun d hd => h.pair _ _ d (hpair ▸ hd)) ?_
        rw [List.take_succ_cons, List.take_zero, List.mem_singleton]
        rintro rfl
        exact absurd ((h.bracket b.toNat).symm.trans hpair) (by simp)
  · exact Piece.isForeign_fault (by simp)

theorem isForeign_big5Pairs : (big5Pairs indexes).IsForeign where
  single _ _ hc := by cases hc
  pair lead trail c hc := by
    simp only [big5Pairs] at hc
    split at hc
    · cases hc
    · unfold big5Entry at hc
      split_ifs at hc
      -- four places hold a letter and a combining mark
      iterate 4
        · simp only [List.mem_cons, List.not_mem_nil, or_false] at hc
          rcases hc with rfl | rfl <;> decide
      · exact beyond_of_mem_entry hc
  bracket _ := rfl

theorem isForeign_eucKrPairs : (eucKrPairs indexes).IsForeign where
  single _ _ hc := by cases hc
  pair lead trail c hc := by
    simp only [eucKrPairs] at hc
    split_ifs at hc
    · exact beyond_of_mem_entry hc
    · cases hc
  bracket _ := rfl

theorem beyond_of_mem_shiftJisEntry {pointer : Nat} (h : c ∈ shiftJisEntry indexes pointer) :
    0x80 ≤ c.toNat := by
  unfold shiftJisEntry at h
  split_ifs at h with hprivate
  · rw [List.mem_singleton.1 h]
    exact beyond_ofNat (by unfold Nat.isValidChar; omega) (by omega)
  · exact beyond_of_mem_entry h

theorem isForeign_shiftJisPairs : (shiftJisPairs indexes).IsForeign where
  single b c hc := by
    simp only [shiftJisPairs] at hc
    split_ifs at hc with hcontrol hkatakana
    · rw [← Option.mem_some_iff.1 hc]
      decide
    · rw [← Option.mem_some_iff.1 hc]
      exact beyond_katakana hkatakana.2
    · cases hc
  pair lead trail c hc := by
    simp only [shiftJisPairs] at hc
    split at hc
    · cases hc
    · exact beyond_of_mem_shiftJisEntry hc
  bracket _ := rfl

theorem isForeign_gb18030Pairs : (gb18030Pairs indexes).IsForeign where
  single b c hc := by
    simp only [gb18030Pairs] at hc
    split_ifs at hc
    · rw [← Option.mem_some_iff.1 hc]
      decide
    · cases hc
  pair lead trail c hc := by
    simp only [gb18030Pairs] at hc
    split at hc
    · cases hc
    · exact beyond_of_mem_entry hc
  bracket _ := rfl

theorem beyond_of_mem_rowEntry {index : Nat → Option ForeignChar} {row place : Nat}
    (h : c ∈ rowEntry index row place) : 0x80 ≤ c.toNat := by
  unfold rowEntry at h
  split_ifs at h
  · exact beyond_of_mem_entry h
  · cases h

theorem isForeign_eucJpPairs : (eucJpPairs indexes).IsForeign where
  single _ _ hc := by cases hc
  pair lead trail c hc := by
    simp only [eucJpPairs] at hc
    split_ifs at hc with hsingle hkatakana
    · rw [List.mem_singleton.1 hc]
      exact beyond_katakana hkatakana.2
    · cases hc
    · cases hc
    · exact beyond_of_mem_rowEntry hc
  bracket lead := by
    simp only [eucJpPairs]
    split_ifs with hsingle hkatakana
    · omega
    · rfl
    · rfl
    · rfl

/-! ## Longer sequences -/

theorem eucJpTriple_isForeign {second : UInt8} (hsecond : 0xA1 ≤ second.toNat)
    (more : List UInt8) : (eucJpTriple indexes second more).IsForeign (second :: more) := by
  have hne : (0x3C : UInt8) ≠ second := by
    rintro rfl
    exact absurd hsecond (by decide)
  cases more with
  | nil => exact Piece.isForeign_fault (by simp [hne])
  | cons third more =>
    simp only [eucJpTriple]
    split
    · refine Piece.isForeign_fault ?_
      rw [Nat.add_comm, List.take_succ_cons, List.mem_cons, not_or]
      exact ⟨hne, bracket_notMem_take_foreignCount third⟩
    · rename_i c cs hentry
      refine Piece.isForeign_characters (by simp)
        (fun d hd => beyond_of_mem_rowEntry (hentry ▸ hd)) ?_
      have hthird : (0x3C : UInt8) ≠ third := by
        rintro rfl
        cases hentry
      simp [hne, hthird]

theorem beyond_of_gb18030Entry {pointer : Nat} (h : gb18030Entry indexes pointer = some c) :
    0x80 ≤ c.toNat := by
  unfold gb18030Entry at h
  split_ifs at h with hnone hprivate hhigh
  · cases h
    decide
  · rw [← Option.some.inj h]
    exact beyond_ofNat (by unfold Nat.isValidChar; omega) (by omega)
  · obtain ⟨d, -, rfl⟩ := Option.map_eq_some_iff.1 h
    exact d.property

theorem ne_bracket_of_isDigit {b : UInt8} (h : isDigit b) : (0x3C : UInt8) ≠ b := by
  rintro rfl
  exact absurd h (by decide)

theorem gb18030Quadruple_isForeign {second : UInt8} (hsecond : isDigit second)
    (more : List UInt8) : (gb18030Quadruple indexes b second more).IsForeign (second :: more) := by
  have hne := ne_bracket_of_isDigit hsecond
  unfold gb18030Quadruple
  split
  · exact Piece.isForeign_fault (by simp [hne])
  rename_i third more
  split_ifs with hthird
  · have hne' : (0x3C : UInt8) ≠ third := by
      rintro rfl
      exact absurd hthird.1 (by decide)
    split
    · exact Piece.isForeign_fault (by simp [hne, hne'])
    rename_i fourth more
    split_ifs with hfourth
    · refine ⟨List.cons_ne_nil _ _, fun c hc => ?_, ?_⟩
      · exact beyond_of_gb18030Entry (List.mem_singleton.1 hc).symm
      · simp [hne, hne', ne_bracket_of_isDigit hfourth]
    · exact Piece.isForeign_fault (by simp)
  · exact Piece.isForeign_fault (by simp)

/-! ## All encodings -/

theorem piece_ascii (m : MultiByte) (hb : b.toNat < 0x80) (rest : List UInt8) :
    m.piece indexes b rest = ⟨[some (Char.ofNat b.toNat)], 0⟩ := by
  have hdouble : ∀ d : DoubleByte, d.piece b rest = ⟨[some (Char.ofNat b.toNat)], 0⟩ :=
    fun _ => if_pos hb
  cases m with
  | gb18030 =>
    simp only [piece, gb18030Piece]
    split
    · rw [if_neg (by omega)]
      exact hdouble _
    · exact hdouble _
  | eucJp =>
    simp only [piece, eucJpPiece]
    split
    · rw [if_neg]
      · exact hdouble _
      · rintro ⟨rfl, -⟩
        exact absurd hb (by decide)
    · exact hdouble _
  | big5 => exact hdouble (big5Pairs indexes)
  | shiftJis => exact hdouble (shiftJisPairs indexes)
  | eucKr => exact hdouble (eucKrPairs indexes)

/-- What a byte from 80 on starts has nothing to do with ASCII. -/
theorem piece_isForeign (m : MultiByte) (hb : 0x80 ≤ b.toNat) (rest : List UInt8) :
    (m.piece indexes b rest).IsForeign rest := by
  cases m with
  | gb18030 =>
    simp only [piece, gb18030Piece]
    split
    · split_ifs with hquadruple
      · exact gb18030Quadruple_isForeign hquadruple.2.2 _
      · exact isForeign_gb18030Pairs.piece hb _
    · exact isForeign_gb18030Pairs.piece hb _
  | eucJp =>
    simp only [piece, eucJpPiece]
    split
    · split_ifs with htriple
      · exact eucJpTriple_isForeign htriple.2.1 _
      · exact isForeign_eucJpPairs.piece hb _
    · exact isForeign_eucJpPairs.piece hb _
  | big5 => exact isForeign_big5Pairs.piece hb rest
  | shiftJis => exact isForeign_shiftJisPairs.piece hb rest
  | eucKr => exact isForeign_eucKrPairs.piece hb rest

theorem decodeFrom_eq (piece : UInt8 → List UInt8 → Piece) (taken : Nat) (bytes : List UInt8) :
    decodeFrom piece taken bytes = decodeFrom piece 0 (bytes.drop taken) := by
  induction taken generalizing bytes with
  | zero => rfl
  | succ taken ih =>
    cases bytes with
    | nil => rfl
    | cons b rest => exact ih rest

theorem decode_cons (m : MultiByte) (b : UInt8) (rest : List UInt8) :
    m.decode indexes (b :: rest) = (m.piece indexes b rest).characters ++
      m.decode indexes (rest.drop (m.piece indexes b rest).taken) := by
  rw [decode, decodeFrom, decodeFrom_eq]
  rfl

end MapServices.MultiByte
