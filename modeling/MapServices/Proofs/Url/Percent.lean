import MapServices.Proofs.Encoding.Utf8
import MapServices.Proofs.Lists
import MapServices.Url.Percent

/-!
# Encoded and plain texts

* `not_encoded_of_mem`: nothing that must be encoded is left in an encoded text.
* `percentEncode_eq_self`: a text that holds nothing of that kind stays as it is.
* `decode?_percentDecode_encode`: a text in ASCII without percent signs is read as it stands.
-/

namespace MapServices.Url

/-! ### Encoding -/

theorem percentEncode_eq_self {encoded : Char → Bool} {s : List Char}
    (h : ∀ c ∈ s, encoded c = false) : percentEncode encoded s = s := by
  induction s with
  | nil => rfl
  | cons c s ih =>
    have hc : percentChar encoded c = [c] := by
      rw [percentChar, h c List.mem_cons_self]
      rfl
    have hs := ih fun d hd => h d (List.mem_cons_of_mem _ hd)
    rw [percentEncode] at hs
    rw [percentEncode, List.flatMap_cons, hc, hs, List.singleton_append]

/-- A character of an encoded text is one that stands for itself, a percent sign or a digit. -/
theorem mem_percentEncode {encoded : Char → Bool} {s : List Char} {c : Char}
    (h : c ∈ percentEncode encoded s) :
    c ∈ s ∧ encoded c = false ∨ c = '%' ∨ ∃ n < 16, c = upperHexDigit n := by
  obtain ⟨d, hd, hc⟩ := List.mem_flatMap.1 h
  unfold percentChar at hc
  split at hc
  · obtain ⟨b, -, hc⟩ := List.mem_flatMap.1 hc
    have hlt := UInt8.toNat_lt b
    simp only [percentByte, List.mem_cons, List.not_mem_nil, or_false] at hc
    rcases hc with rfl | rfl | rfl
    · exact Or.inr (Or.inl rfl)
    · exact Or.inr (Or.inr ⟨_, by omega, rfl⟩)
    · exact Or.inr (Or.inr ⟨_, by omega, rfl⟩)
  · rename_i hencoded
    rw [List.mem_singleton] at hc
    subst hc
    exact Or.inl ⟨hd, by simpa using hencoded⟩

/-- Neither a percent sign nor a digit has to be encoded. -/
def SparesDigits (encoded : Char → Bool) : Prop :=
  encoded '%' = false ∧ ∀ n ∈ List.range 16, encoded (upperHexDigit n) = false

instance (encoded : Char → Bool) : Decidable (SparesDigits encoded) :=
  inferInstanceAs (Decidable (_ ∧ _))

theorem sparesDigits_control : SparesDigits isControlOrForeign := by decide

theorem sparesDigits_path : SparesDigits isPathEncoded := by decide

theorem sparesDigits_query (special : Bool) : SparesDigits (isQueryEncoded special) := by
  cases special <;> decide

theorem not_encoded_of_mem {encoded : Char → Bool} (h : SparesDigits encoded) {s : List Char} :
    ∀ c ∈ percentEncode encoded s, encoded c = false := by
  intro c hc
  rcases mem_percentEncode hc with ⟨-, hc⟩ | rfl | ⟨n, hn, rfl⟩
  · exact hc
  · exact h.1
  · exact h.2 n (List.mem_range.2 hn)

/-- A character of ASCII other than controls and the blank. -/
def IsVisible (c : Char) : Prop := 0x20 < c.toNat ∧ c.toNat < 0x7F

instance (c : Char) : Decidable (IsVisible c) := inferInstanceAs (Decidable (_ ∧ _))

theorem isVisible_of_kept {c : Char} (hkept : isControlOrForeign c = false) (hblank : c ≠ ' ') :
    IsVisible c := by
  rw [isControlOrForeign, Bool.or_eq_false_iff, decide_eq_false_iff_not,
    decide_eq_false_iff_not] at hkept
  obtain ⟨hlow, hhigh⟩ := hkept
  have hne : c.toNat ≠ 0x20 := fun heq => hblank (Char.toNat_inj.1 heq)
  exact ⟨by omega, by omega⟩

theorem isVisible_of_path {c : Char} (h : isPathEncoded c = false) :
    IsVisible c ∧ c ≠ '?' ∧ c ≠ '#' := by
  simp only [isPathEncoded, Bool.or_eq_false_iff, decide_eq_false_iff_not] at h
  obtain ⟨⟨⟨⟨⟨⟨⟨⟨⟨hkept, hblank⟩, -⟩, hhash⟩, -⟩, -⟩, hmark⟩, -⟩, -⟩, -⟩ := h
  exact ⟨isVisible_of_kept hkept hblank, hmark, hhash⟩

theorem isVisible_of_query {special : Bool} {c : Char} (h : isQueryEncoded special c = false) :
    IsVisible c ∧ c ≠ '#' := by
  simp only [isQueryEncoded, Bool.or_eq_false_iff, decide_eq_false_iff_not] at h
  obtain ⟨⟨⟨⟨⟨⟨hkept, hblank⟩, -⟩, hhash⟩, -⟩, -⟩, -⟩ := h
  exact ⟨isVisible_of_kept hkept hblank, hhash⟩

/-! ### Texts in ASCII -/

theorem percentDecode_eq_self {bytes : List UInt8} (h : 37 ∉ bytes) :
    percentDecode bytes = bytes := by
  induction bytes with
  | nil => rfl
  | cons b bytes ih =>
    have hb : b ≠ 37 := by
      rintro rfl
      exact h List.mem_cons_self
    have hbytes := ih fun hmem => h (List.mem_cons_of_mem _ hmem)
    unfold percentDecode
    split
    · rename_i heq
      cases heq
      exact absurd rfl hb
    · rename_i heq
      cases heq
      rw [hbytes]
    · rename_i heq
      cases heq

/-- A text in ASCII without percent signs is read as it stands. -/
theorem decode?_percentDecode_encode {s : List Char} (h : ∀ c ∈ s, c.toNat < 128)
    (hpercent : '%' ∉ s) : Utf8.decode? (percentDecode (Utf8.encode s)) = some s := by
  have hbytes : 37 ∉ s.map fun c => UInt8.ofNat c.toNat := by
    intro hmem
    obtain ⟨c, hc, heq⟩ := List.mem_map.1 hmem
    have hnat : c.toNat = 37 := by
      rw [← Utf8.toNat_byte_of_ascii (h c hc), heq]
      rfl
    rw [← Char.ofNat_toNat c, hnat] at hc
    exact hpercent hc
  rw [Utf8.encode_of_ascii h, percentDecode_eq_self hbytes, Utf8.decode?, Utf8.decode_of_ascii h,
    Lists.mapM_eq_some_iff, List.forall₂_map_left_iff, List.forall₂_same]
  exact fun _ _ => rfl

end MapServices.Url
