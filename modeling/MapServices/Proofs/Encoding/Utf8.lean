import Mathlib.Data.List.Basic
import MapServices.Encoding.Utf8
import MapServices.Proofs.Text.Ascii

/-!
# Characters in UTF-8

A byte of ASCII stands for itself and is part of no other character, so ASCII characters can be
told from the bytes before the bytes are decoded. The same is true of the byte order mark.

* `Utf8.decode_of_ascii`: bytes of ASCII are decoded one by one.
* `Utf8.exists_tail`: an ASCII character or a byte order mark comes from its own bytes.
* `Utf8.exists_rest`: where bytes from 80 on end, and decoding starts afresh.
* `Utf8.decode_encode`: every text is read from its bytes.
-/

namespace MapServices.Utf8

variable {bytes rest : List UInt8} {c : Char} {t : List (Option Char)}

/-! ## Bytes of ASCII -/

theorem toNat_byte_of_ascii {c : Char} (h : c.toNat < 128) :
    (UInt8.ofNat c.toNat).toNat = c.toNat := by
  rw [UInt8.toNat_ofNat']
  exact Nat.mod_eq_of_lt (by omega)

theorem utf8EncodeChar_of_ascii {c : Char} (h : c.toNat < 128) :
    String.utf8EncodeChar c = [UInt8.ofNat c.toNat] := by
  have hle : c.val.toNat ≤ 127 := Nat.le_of_lt_succ h
  simp only [String.utf8EncodeChar, hle, if_true]
  rfl

theorem utf8EncodeChar_ofNat {b : UInt8} (h : b.toNat < 128) :
    String.utf8EncodeChar (Char.ofNat b.toNat) = [b] := by
  have hnumber : (Char.ofNat b.toNat).toNat = b.toNat := Text.toNat_ofNat (.inl (by omega))
  rw [utf8EncodeChar_of_ascii (by rwa [hnumber]), hnumber, UInt8.ofNat_toNat]

theorem encode_of_ascii {s : List Char} (h : ∀ c ∈ s, c.toNat < 128) :
    encode s = s.map fun c => UInt8.ofNat c.toNat := by
  induction s with
  | nil => rfl
  | cons c s ih =>
    have hs := ih fun d hd => h d (List.mem_cons_of_mem _ hd)
    rw [encode] at hs
    rw [encode, List.flatMap_cons, hs, utf8EncodeChar_of_ascii (h c List.mem_cons_self)]
    rfl

theorem decode_cons_of_lt {b : UInt8} (h : b.toNat < 128) (rest : List UInt8) :
    decode (b :: rest) = some (Char.ofNat b.toNat) :: decode rest := by
  have hfirst : step none b.toNat = ([some (Char.ofNat b.toNat)], none) := by
    rw [step, first, if_pos h]
  rw [decode, decodeFrom, hfirst]
  rfl

theorem decode_of_ascii {s : List Char} (h : ∀ c ∈ s, c.toNat < 128) :
    decode (s.map fun c => UInt8.ofNat c.toNat) = s.map some := by
  induction s with
  | nil => rfl
  | cons c s ih =>
    have hc := toNat_byte_of_ascii (h c List.mem_cons_self)
    have hlt : (UInt8.ofNat c.toNat).toNat < 128 := hc.symm ▸ h c List.mem_cons_self
    rw [List.map_cons, List.map_cons, decode_cons_of_lt hlt, hc, Char.ofNat_toNat,
      ih fun d hd => h d (List.mem_cons_of_mem _ hd)]

/-! ## Sequences of bytes -/

/-- A byte that goes on with a sequence. -/
structure Pending.Takes (p : Pending) (b : UInt8) : Prop where
  low : p.low ≤ b.toNat
  high : b.toNat ≤ p.high

/-- A sequence that gives a character goes on with a byte that it can take. -/
theorem exists_byte {p : Pending} (h : decodeFrom (some p) bytes = some c :: t) :
    ∃ b rest, bytes = b :: rest ∧ p.Takes b ∧
      if p.needed ≤ 1 then c = Char.ofNat (p.bits * 64 + (b.toNat - 0x80)) ∧ t = decode rest
      else decodeFrom
        (some { needed := p.needed - 1, bits := p.bits * 64 + (b.toNat - 0x80) }) rest =
          some c :: t := by
  cases bytes with
  | nil => cases h
  | cons b rest =>
    refine ⟨b, rest, rfl, ?_⟩
    rw [decodeFrom] at h
    by_cases hin : (p.low ≤ b.toNat && b.toNat ≤ p.high) = true
    · simp only [Bool.and_eq_true, decide_eq_true_eq] at hin
      refine ⟨⟨hin.1, hin.2⟩, ?_⟩
      by_cases hlast : p.needed ≤ 1
      · simp only [step, hin, decide_true, Bool.and_self, if_true, hlast, List.singleton_append,
          List.cons.injEq, Option.some.injEq] at h ⊢
        exact ⟨h.1.symm, h.2.symm⟩
      · simpa only [step, hin, decide_true, Bool.and_self, if_true, hlast, if_false,
          List.nil_append] using h
    · -- a fault is shown before the byte is looked at afresh
      simp only [step, hin] at h
      cases h

/-- A byte that goes on with any sequence but at its start. -/
def IsTail (b : UInt8) : Prop := 0x80 ≤ b.toNat ∧ b.toNat ≤ 0xBF

theorem exists_bytes_two {p : Pending} (hp : p.needed = 2)
    (h : decodeFrom (some p) bytes = some c :: t) :
    ∃ b₁ b₂ rest, bytes = b₁ :: b₂ :: rest ∧ p.Takes b₁ ∧ IsTail b₂ ∧
      c = Char.ofNat ((p.bits * 64 + (b₁.toNat - 0x80)) * 64 + (b₂.toNat - 0x80)) ∧
      t = decode rest := by
  obtain ⟨b₁, rest, rfl, hb₁, h⟩ := exists_byte h
  rw [if_neg (by omega)] at h
  obtain ⟨b₂, rest, rfl, hb₂, h⟩ := exists_byte h
  rw [if_pos (show p.needed - 1 ≤ 1 by omega)] at h
  exact ⟨b₁, b₂, rest, rfl, hb₁, ⟨hb₂.low, hb₂.high⟩, h⟩

theorem exists_bytes_three {p : Pending} (hp : p.needed = 3)
    (h : decodeFrom (some p) bytes = some c :: t) :
    ∃ b₁ b₂ b₃ rest, bytes = b₁ :: b₂ :: b₃ :: rest ∧ p.Takes b₁ ∧ IsTail b₂ ∧ IsTail b₃ ∧
      c = Char.ofNat (((p.bits * 64 + (b₁.toNat - 0x80)) * 64 + (b₂.toNat - 0x80)) * 64 +
        (b₃.toNat - 0x80)) ∧
      t = decode rest := by
  obtain ⟨b₁, rest, rfl, hb₁, h⟩ := exists_byte h
  rw [if_neg (by omega)] at h
  obtain ⟨b₂, b₃, rest, rfl, hb₂, hb₃, h⟩ := exists_bytes_two (show p.needed - 1 = 2 by omega) h
  exact ⟨b₁, b₂, b₃, rest, rfl, hb₁, ⟨hb₂.low, hb₂.high⟩, hb₃, h⟩

/-! ## Characters that come from bytes of their own -/

/-- The characters that matter at the start of a document: those of ASCII, and the byte order mark.
-/
def IsLeading (c : Char) : Prop := c.toNat < 128 ∨ c = '\uFEFF'

/-- No other character has the number. -/
theorem IsLeading.number (hc : IsLeading c) {n : Nat} (hn : n.isValidChar)
    (heq : c = Char.ofNat n) : n < 128 ∨ n = 0xFEFF := by
  rcases hc with hc | hc
  · exact .inl (by rwa [heq, Text.toNat_ofNat hn] at hc)
  · exact .inr (by rw [← Text.toNat_ofNat hn, ← heq, hc]; rfl)

/-- What a byte announces at the start of a sequence: how many bytes are still to come, and bounds
that leave out numbers of fewer bytes, surrogates and numbers that are too great. -/
inductive Announces (b : Nat) : Pending → Prop where
  | one {p : Pending} (hp : p.needed = 1) (hlow : p.low = 0x80) (hhigh : p.high = 0xBF)
      (hbits : 2 ≤ p.bits ∧ p.bits < 0x20) : Announces b p
  | two {p : Pending} (hp : p.needed = 2)
      (hlow : 0x80 ≤ p.low ∧ 0x20 ≤ p.bits * 64 + (p.low - 0x80))
      (hhigh : p.high ≤ 0xBF ∧ (p.bits = 0xD → p.high ≤ 0x9F)) (hbits : p.bits < 0x10)
      (hb : b = 0xE0 + p.bits) : Announces b p
  | three {p : Pending} (hp : p.needed = 3)
      (hlow : 0x80 ≤ p.low ∧ 0x10 ≤ p.bits * 64 + (p.low - 0x80))
      (hhigh : p.high ≤ 0xBF ∧ (p.bits = 4 → p.high ≤ 0x8F)) (hbits : p.bits ≤ 4) : Announces b p

theorem first_cases (b : Nat) :
    (b < 0x80 ∧ first b = ([some (Char.ofNat b)], none)) ∨ first b = ([none], none) ∨
      ∃ p, Announces b p ∧ first b = ([], some p) := by
  generalize hfirst : first b = result
  unfold first at hfirst
  split at hfirst
  · exact .inl ⟨‹_›, hfirst.symm⟩
  split at hfirst
  · exact .inr (.inl hfirst.symm)
  split at hfirst
  · exact .inr (.inr ⟨_, .one rfl rfl rfl ⟨by simp only; omega, by simp only; omega⟩, hfirst.symm⟩)
  iterate 3
    split at hfirst
    · exact .inr (.inr ⟨_, .two rfl (by simp only; omega) (by simp only; omega)
        (by simp only; omega) (by simp only; omega), hfirst.symm⟩)
  iterate 3
    split at hfirst
    · exact .inr (.inr ⟨_, .three rfl (by simp only; omega) (by simp only; omega)
        (by simp only; omega), hfirst.symm⟩)
  exact .inr (.inl hfirst.symm)

/-- A sequence gives a character beyond ASCII, and the byte order mark from its own bytes only. -/
theorem Announces.exists_tail {b : UInt8} {p : Pending} (h : Announces b.toNat p)
    (hdecode : decodeFrom (some p) bytes = some c :: t) (hc : IsLeading c) :
    ∃ tail, b :: bytes = String.utf8EncodeChar c ++ tail ∧ t = decode tail := by
  cases h with
  | one hp hlow hhigh hbits =>
    obtain ⟨b₁, rest, rfl, hb₁, h⟩ := exists_byte hdecode
    obtain ⟨hlow₁, hhigh₁⟩ := hb₁
    rw [if_pos (Nat.le_of_eq hp)] at h
    have hn := hc.number (by unfold Nat.isValidChar; omega) h.1
    omega
  | two hp hlow hhigh hbits hb =>
    obtain ⟨b₁, b₂, rest, rfl, ⟨hlow₁, hhigh₁⟩, ⟨hlow₂, hhigh₂⟩, heq, ht⟩ :=
      exists_bytes_two hp hdecode
    have hn := hc.number (by unfold Nat.isValidChar; omega) heq
    have hb : b = 0xEF := UInt8.toNat_inj.1 (show b.toNat = 0xEF by omega)
    have hb₁ : b₁ = 0xBB := UInt8.toNat_inj.1 (show b₁.toNat = 0xBB by omega)
    have hb₂ : b₂ = 0xBF := UInt8.toNat_inj.1 (show b₂.toNat = 0xBF by omega)
    have hmark : c = '\uFEFF' := by
      rw [heq]
      exact congrArg Char.ofNat (hn.resolve_left (by omega))
    subst hb hb₁ hb₂ hmark
    exact ⟨rest, rfl, ht⟩
  | three hp hlow hhigh hbits =>
    obtain ⟨b₁, b₂, b₃, rest, rfl, ⟨hlow₁, hhigh₁⟩, ⟨hlow₂, hhigh₂⟩, ⟨hlow₃, hhigh₃⟩, heq, ht⟩ :=
      exists_bytes_three hp hdecode
    have hn := hc.number (by unfold Nat.isValidChar; omega) heq
    omega

theorem exists_tail (h : decode bytes = some c :: t) (hc : IsLeading c) :
    ∃ tail, bytes = String.utf8EncodeChar c ++ tail ∧ t = decode tail := by
  cases bytes with
  | nil => cases h
  | cons b rest =>
    rw [decode, decodeFrom, step] at h
    rcases first_cases b.toNat with ⟨hb, hfirst⟩ | hfirst | ⟨p, hp, hfirst⟩
    · rw [hfirst] at h
      obtain ⟨hc, ht⟩ := List.cons.inj h
      rw [← Option.some.inj hc, utf8EncodeChar_ofNat hb]
      exact ⟨rest, rfl, ht.symm⟩
    · rw [hfirst] at h
      cases h
    · rw [hfirst] at h
      exact hp.exists_tail h hc

/-! ## Where sequences end -/

/-- A byte that the sequence under way can take goes on with it. -/
theorem decodeFrom_cons {p : Pending} {b : UInt8} (h : p.Takes b) (rest : List UInt8) :
    decodeFrom (some p) (b :: rest) =
      if p.needed ≤ 1 then some (Char.ofNat (p.bits * 64 + (b.toNat - 0x80))) :: decode rest
      else decodeFrom
        (some { needed := p.needed - 1, bits := p.bits * 64 + (b.toNat - 0x80) }) rest := by
  have hin : (p.low ≤ b.toNat && b.toNat ≤ p.high) = true := by
    simpa using And.intro h.low h.high
  rw [decodeFrom]
  simp only [step, hin, if_true]
  split <;> rfl

theorem decode_cons_of_first {b : UInt8} {p : Pending} (h : first b.toNat = ([], some p))
    (rest : List UInt8) : decode (b :: rest) = decodeFrom (some p) rest := by
  rw [decode, decodeFrom]
  simp only [step, h, List.nil_append]

/-- A byte that the sequence under way cannot take is looked at afresh. -/
theorem decodeFrom_cons_of_not_takes {p : Pending} {b : UInt8} (h : ¬ p.Takes b)
    (rest : List UInt8) : decodeFrom (some p) (b :: rest) = none :: decode (b :: rest) := by
  have hin : (p.low ≤ b.toNat && b.toNat ≤ p.high) = false := by
    rw [Bool.eq_false_iff]
    intro hin
    simp only [Bool.and_eq_true, decide_eq_true_eq] at hin
    exact h ⟨hin.1, hin.2⟩
  rw [decodeFrom, decode, decodeFrom]
  simp only [step, hin, Bool.false_eq_true, if_false, List.cons_append]

/-- A sequence takes bytes from 80 on only, and gives no character of ASCII. -/
inductive Pending.Foreign : Pending → Prop where
  | last {p : Pending} (hp : p.needed ≤ 1) (hlow : 0x80 ≤ p.low)
      (h : ∀ b, p.Takes b → (p.bits * 64 + (b.toNat - 0x80)).isValidChar ∧
        0x80 ≤ p.bits * 64 + (b.toNat - 0x80)) : Foreign p
  | more {p : Pending} (hp : 1 < p.needed) (hlow : 0x80 ≤ p.low)
      (h : ∀ b, p.Takes b →
        Foreign { needed := p.needed - 1, bits := p.bits * 64 + (b.toNat - 0x80) }) : Foreign p

theorem Announces.foreign {b : Nat} {p : Pending} (h : Announces b p) : p.Foreign := by
  cases h with
  | one hp hlow hhigh hbits =>
    refine .last (by omega) (by omega) fun b₁ ⟨hlow₁, hhigh₁⟩ => ?_
    unfold Nat.isValidChar
    omega
  | two hp hlow hhigh hbits =>
    refine .more (by omega) hlow.1 fun b₁ ⟨hlow₁, hhigh₁⟩ => ?_
    refine .last (by simp only; omega) (by simp only; omega) fun b₂ ⟨hlow₂, hhigh₂⟩ => ?_
    simp only at hlow₂ hhigh₂ ⊢
    unfold Nat.isValidChar
    omega
  | three hp hlow hhigh hbits =>
    refine .more (by omega) hlow.1 fun b₁ ⟨hlow₁, hhigh₁⟩ => ?_
    refine .more (by simp only; omega) (by simp only; omega) fun b₂ ⟨hlow₂, hhigh₂⟩ => ?_
    refine .last (by simp only; omega) (by simp only; omega) fun b₃ ⟨hlow₃, hhigh₃⟩ => ?_
    simp only at hlow₂ hhigh₂ hlow₃ hhigh₃ ⊢
    unfold Nat.isValidChar
    omega

/-- A sequence ends with a character beyond ASCII or with a fault, after bytes from 80 on. -/
theorem Pending.Foreign.exists_rest {p : Pending} (hp : p.Foreign) (bytes : List UInt8) :
    ∃ o taken, (∀ d ∈ o, 0x80 ≤ d.toNat) ∧ (∀ b ∈ bytes.take taken, 0x80 ≤ b.toNat) ∧
      decodeFrom (some p) bytes = o :: decode (bytes.drop taken) := by
  induction hp generalizing bytes with
  | @last p hp hlow h =>
    cases bytes with
    | nil => exact ⟨none, 0, nofun, by simp, rfl⟩
    | cons b rest =>
      by_cases hb : p.Takes b
      · obtain ⟨hvalid, hforeign⟩ := h b hb
        refine ⟨some _, 1, ?_, ?_, (decodeFrom_cons hb rest).trans (if_pos hp)⟩
        · intro d hd
          rw [← Option.mem_some_iff.1 hd, Text.toNat_ofNat hvalid]
          exact hforeign
        · exact List.forall_mem_singleton.2 (Nat.le_trans hlow hb.low)
      · exact ⟨none, 0, nofun, by simp, decodeFrom_cons_of_not_takes hb rest⟩
  | @more p hp hlow h ih =>
    cases bytes with
    | nil => exact ⟨none, 0, nofun, by simp, rfl⟩
    | cons b rest =>
      by_cases hb : p.Takes b
      · obtain ⟨o, taken, hforeign, htaken, hdecode⟩ := ih b hb rest
        refine ⟨o, taken + 1, hforeign, ?_, ?_⟩
        · rw [List.take_succ_cons, List.forall_mem_cons]
          exact ⟨Nat.le_trans hlow hb.low, htaken⟩
        · rw [decodeFrom_cons hb, if_neg (by omega), hdecode, List.drop_succ_cons]
      · exact ⟨none, 0, nofun, by simp, decodeFrom_cons_of_not_takes hb rest⟩

theorem exists_rest {b : UInt8} (hb : 0x80 ≤ b.toNat) (rest : List UInt8) :
    ∃ o taken, (∀ d ∈ o, 0x80 ≤ d.toNat) ∧ (∀ x ∈ rest.take taken, 0x80 ≤ x.toNat) ∧
      decode (b :: rest) = o :: decode (rest.drop taken) := by
  rcases first_cases b.toNat with ⟨hlow, -⟩ | hfirst | ⟨p, hp, hfirst⟩
  · omega
  · refine ⟨none, 0, nofun, by simp, ?_⟩
    rw [decode, decodeFrom]
    simp only [step, hfirst]
    rfl
  · rw [decode_cons_of_first hfirst]
    exact hp.foreign.exists_rest rest

/-! ## Reading what is written -/

/-- What the first byte of a character of three bytes announces. -/
theorem exists_first_two {v : Nat} (h : v.isValidChar) (hlow : 0x800 ≤ v) (hhigh : v < 0x10000) :
    ∃ p, first (v / 0x1000 + 0xE0) = ([], some p) ∧ p.needed = 2 ∧ p.bits = v / 0x1000 ∧
      p.low ≤ v / 0x40 % 0x40 + 0x80 ∧ v / 0x40 % 0x40 + 0x80 ≤ p.high := by
  unfold Nat.isValidChar at h
  unfold first
  split
  · omega
  split
  · omega
  split
  · omega
  split
  · exact ⟨_, rfl, rfl, by simp only; omega, by simp only; omega, by simp only; omega⟩
  split
  · exact ⟨_, rfl, rfl, by simp only; omega, by simp only; omega, by simp only; omega⟩
  split
  · exact ⟨_, rfl, rfl, by simp only; omega, by simp only; omega, by simp only; omega⟩
  · omega

/-- What the first byte of a character of four bytes announces. -/
theorem exists_first_three {v : Nat} (h : v.isValidChar) (hlow : 0x10000 ≤ v) :
    ∃ p, first (v / 0x40000 + 0xF0) = ([], some p) ∧ p.needed = 3 ∧ p.bits = v / 0x40000 ∧
      p.low ≤ v / 0x1000 % 0x40 + 0x80 ∧ v / 0x1000 % 0x40 + 0x80 ≤ p.high := by
  unfold Nat.isValidChar at h
  unfold first
  iterate 6
    rw [if_neg (by omega)]
  split
  · exact ⟨_, rfl, rfl, by simp only; omega, by simp only; omega, by simp only; omega⟩
  split
  · exact ⟨_, rfl, rfl, by simp only; omega, by simp only; omega, by simp only; omega⟩
  split
  · exact ⟨_, rfl, rfl, by simp only; omega, by simp only; omega, by simp only; omega⟩
  · omega

theorem toNat_ofNat_byte {n : Nat} (h : n < 0x100) : (UInt8.ofNat n).toNat = n := by
  rw [UInt8.toNat_ofNat', Nat.mod_eq_of_lt h]

/-- A byte of a character that goes on with a sequence adds six bits. -/
theorem decodeFrom_tail {p : Pending} {n : Nat} (hlow : p.low ≤ n % 0x40 + 0x80)
    (hhigh : n % 0x40 + 0x80 ≤ p.high) (rest : List UInt8) :
    decodeFrom (some p) (UInt8.ofNat (n % 0x40 + 0x80) :: rest) =
      if p.needed ≤ 1 then some (Char.ofNat (p.bits * 64 + n % 0x40)) :: decode rest
      else decodeFrom (some { needed := p.needed - 1, bits := p.bits * 64 + n % 0x40 }) rest := by
  have hbyte : (UInt8.ofNat (n % 0x40 + 0x80)).toNat = n % 0x40 + 0x80 :=
    toNat_ofNat_byte (by omega)
  rw [decodeFrom_cons ⟨by rwa [hbyte], by rwa [hbyte]⟩, hbyte, Nat.add_sub_cancel]

/-- A character is read from its own bytes. -/
theorem decode_utf8EncodeChar (c : Char) (rest : List UInt8) :
    decode (String.utf8EncodeChar c ++ rest) = some c :: decode rest := by
  have hvalid : c.toNat.isValidChar := c.valid
  have hback : ∀ n, n = c.toNat → Char.ofNat n = c := by
    rintro _ rfl
    exact Char.ofNat_toNat c
  have hlt : c.toNat < 0x110000 := by
    unfold Nat.isValidChar at hvalid
    omega
  have hbytes : String.utf8EncodeChar c =
      if c.toNat ≤ 0x7F then [UInt8.ofNat c.toNat]
      else if c.toNat ≤ 0x7FF then
        [UInt8.ofNat (c.toNat / 0x40 % 0x20 + 0xC0), UInt8.ofNat (c.toNat % 0x40 + 0x80)]
      else if c.toNat ≤ 0xFFFF then
        [UInt8.ofNat (c.toNat / 0x1000 % 0x10 + 0xE0), UInt8.ofNat (c.toNat / 0x40 % 0x40 + 0x80),
          UInt8.ofNat (c.toNat % 0x40 + 0x80)]
      else
        [UInt8.ofNat (c.toNat / 0x40000 % 8 + 0xF0), UInt8.ofNat (c.toNat / 0x1000 % 0x40 + 0x80),
          UInt8.ofNat (c.toNat / 0x40 % 0x40 + 0x80), UInt8.ofNat (c.toNat % 0x40 + 0x80)] := rfl
  rw [hbytes]
  split
  · rename_i hone
    rw [List.singleton_append, decode_cons_of_lt (by rw [toNat_ofNat_byte] <;> omega),
      toNat_ofNat_byte (by omega), hback _ rfl]
  split
  · have hfirst : first (UInt8.ofNat (c.toNat / 0x40 % 0x20 + 0xC0)).toNat =
        ([], some { needed := 1, bits := c.toNat / 0x40 }) := by
      rw [toNat_ofNat_byte (by omega), first, if_neg (by omega), if_neg (by omega),
        if_pos (by omega), show c.toNat / 0x40 % 0x20 + 0xC0 - 0xC0 = c.toNat / 0x40 by omega]
    rw [List.cons_append, decode_cons_of_first hfirst, List.singleton_append,
      decodeFrom_tail (by simp only; omega) (by simp only; omega), if_pos (by simp only; omega),
      hback _ (by simp only; omega)]
  split
  · obtain ⟨p, hp, hneeded, hbits, hlow, hhigh⟩ :=
      exists_first_two hvalid (by omega) (by omega)
    have hfirst : first (UInt8.ofNat (c.toNat / 0x1000 % 0x10 + 0xE0)).toNat = ([], some p) := by
      rwa [toNat_ofNat_byte (by omega), show c.toNat / 0x1000 % 0x10 = c.toNat / 0x1000 by omega]
    rw [List.cons_append, decode_cons_of_first hfirst, List.cons_append,
      decodeFrom_tail hlow hhigh, if_neg (by omega), List.singleton_append,
      decodeFrom_tail (by simp only; omega) (by simp only; omega), if_pos (by simp only; omega),
      hback _ (by simp only; omega)]
  · obtain ⟨p, hp, hneeded, hbits, hlow, hhigh⟩ := exists_first_three hvalid (by omega)
    have hfirst : first (UInt8.ofNat (c.toNat / 0x40000 % 8 + 0xF0)).toNat = ([], some p) := by
      rwa [toNat_ofNat_byte (by omega), show c.toNat / 0x40000 % 8 = c.toNat / 0x40000 by omega]
    rw [List.cons_append, decode_cons_of_first hfirst, List.cons_append,
      decodeFrom_tail hlow hhigh, if_neg (by omega), List.cons_append,
      decodeFrom_tail (by simp only; omega) (by simp only; omega), if_neg (by simp only; omega),
      List.singleton_append,
      decodeFrom_tail (by simp only; omega) (by simp only; omega), if_pos (by simp only; omega),
      hback _ (by simp only; omega)]

/-- A text is read from its bytes. -/
theorem decode_encode (s : List Char) : decode (encode s) = s.map some := by
  induction s with
  | nil => rfl
  | cons c s ih =>
    rw [encode] at ih
    rw [encode, List.flatMap_cons, decode_utf8EncodeChar, ih, List.map_cons]

end MapServices.Utf8
