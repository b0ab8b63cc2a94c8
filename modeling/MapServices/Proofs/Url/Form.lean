import MapServices.Proofs.Encoding.Utf8
import MapServices.Proofs.Url.Split
import MapServices.Url.Form

/-!
# Forms are read back

* `forall_mem_formEncode`: a text in a form holds letters, numerals and six marks only.
* `formDecode_formEncode`: every text is read from what is written for it in a form.
* `decodePair_formPair`: so is every parameter.
-/

namespace MapServices.Url

theorem forall_byte {p : UInt8 → Prop} (h : ∀ n ∈ List.range 256, p (UInt8.ofNat n)) (b : UInt8) :
    p b := by
  have hb := h b.toNat (List.mem_range.2 (UInt8.toNat_lt b))
  rwa [UInt8.ofNat_toNat] at hb

/-! ### Characters -/

/-- The characters of texts in a form. -/
def IsFormChar (c : Char) : Prop := c.isAlphanum ∨ c ∈ ['*', '-', '.', '_', '+', '%']

instance (c : Char) : Decidable (IsFormChar c) := inferInstanceAs (Decidable (_ ∨ _))

theorem IsFormChar.toNat_lt {c : Char} (h : IsFormChar c) : c.toNat < 128 := by
  rcases h with halpha | hmark
  · exact Text.toNat_lt_of_isAlphanum halpha
  · have hall : ['*', '-', '.', '_', '+', '%'].all fun d => d.toNat < 128 := by decide
    exact of_decide_eq_true (List.all_eq_true.1 hall c hmark)

theorem isFormChar_of_mem_formByte (b : UInt8) : ∀ c ∈ formByte b, IsFormChar c := by
  have hall : (formByte b).all fun c => IsFormChar c :=
    forall_byte (p := fun b => (formByte b).all fun c => IsFormChar c) (by decide +kernel) b
  exact fun c hc => of_decide_eq_true (List.all_eq_true.1 hall c hc)

theorem isFormChar_of_mem_formEncode {s : List Char} : ∀ c ∈ formEncode s, IsFormChar c := by
  intro c hc
  obtain ⟨b, -, hc⟩ := List.mem_flatMap.1 hc
  exact isFormChar_of_mem_formByte b c hc

/-- What holds of the characters that may stand in a form holds of the characters of a text in a
form. -/
theorem forall_mem_formEncode {p : Char → Prop}
    (h : ∀ n ∈ List.range 128, IsFormChar (Char.ofNat n) → p (Char.ofNat n)) {s : List Char} :
    ∀ c ∈ formEncode s, p c := by
  intro c hc
  have hform := isFormChar_of_mem_formEncode c hc
  exact Text.forall_ascii (p := fun c => IsFormChar c → p c) h hform.toNat_lt hform

/-! ### Texts -/

/-- The text with a blank in the place of each plus sign. -/
def withBlanks (s : List Char) : List Char := s.map fun c => if c = '+' then ' ' else c

theorem percentDecode_cons {b : UInt8} (h : b ≠ 37) (rest : List UInt8) :
    percentDecode (b :: rest) = b :: percentDecode rest := by
  rw [percentDecode]
  rintro _ _ _ rfl
  exact absurd rfl h

theorem hexValue?_upperHexDigit {n : Nat} (h : n < 16) :
    hexValue? (UInt8.ofNat (upperHexDigit n).toNat) = some (UInt8.ofNat n) := by
  have hall : ∀ n ∈ List.range 16,
      hexValue? (UInt8.ofNat (upperHexDigit n).toNat) = some (UInt8.ofNat n) := by decide
  exact hall n (List.mem_range.2 h)

/-- A byte that is written by its number is read from its two digits. -/
theorem percentDecode_percentByte (b : UInt8) (rest : List UInt8) :
    percentDecode ((percentByte b).map (fun c => UInt8.ofNat c.toNat) ++ rest) =
      b :: percentDecode rest := by
  have hlt := UInt8.toNat_lt b
  have hhigh := hexValue?_upperHexDigit (show b.toNat / 16 < 16 by omega)
  have hlow := hexValue?_upperHexDigit (show b.toNat % 16 < 16 by omega)
  have hbyte : 16 * UInt8.ofNat (b.toNat / 16) + UInt8.ofNat (b.toNat % 16) = b := by
    apply UInt8.toNat_inj.1
    rw [UInt8.toNat_add, UInt8.toNat_mul, UInt8.toNat_ofNat', UInt8.toNat_ofNat']
    simp only [UInt8.toNat_ofNat]
    omega
  have hpercent : UInt8.ofNat '%'.toNat = 37 := rfl
  rw [percentByte, List.map_cons, List.map_cons, List.map_singleton, hpercent, List.cons_append,
    List.cons_append, List.singleton_append, percentDecode, hhigh, hlow]
  simp only [hbyte]

/-- A byte is read from what is written for it in a form. -/
theorem percentDecode_formByte (b : UInt8) (rest : List UInt8) :
    percentDecode (Utf8.encode (withBlanks (formByte b)) ++ rest) = b :: percentDecode rest := by
  have hall : (withBlanks (formByte b)).all fun c => c.toNat < 128 :=
    forall_byte (p := fun b => (withBlanks (formByte b)).all fun c => c.toNat < 128)
      (by decide +kernel) b
  rw [Utf8.encode_of_ascii fun c hc => of_decide_eq_true (List.all_eq_true.1 hall c hc)]
  unfold formByte
  split
  · rename_i hsafe
    have hplain : withBlanks [Char.ofNat b.toNat] = [Char.ofNat b.toNat] ∧ b ≠ 37 ∧
        UInt8.ofNat (Char.ofNat b.toNat).toNat = b :=
      forall_byte (p := fun b => isFormSafe b → withBlanks [Char.ofNat b.toNat] =
        [Char.ofNat b.toNat] ∧ b ≠ 37 ∧ UInt8.ofNat (Char.ofNat b.toNat).toNat = b)
        (by decide +kernel) b hsafe
    rw [hplain.1, List.map_singleton, hplain.2.2, List.singleton_append,
      percentDecode_cons hplain.2.1]
  split
  · rename_i hblank
    rw [hblank]
    exact percentDecode_cons (by decide) rest
  · have hkept : withBlanks (percentByte b) = percentByte b :=
      forall_byte (p := fun b => withBlanks (percentByte b) = percentByte b) (by decide +kernel) b
    rw [hkept, percentDecode_percentByte]

theorem percentDecode_formBytes (bytes : List UInt8) :
    percentDecode (Utf8.encode (withBlanks (bytes.flatMap formByte))) = bytes := by
  induction bytes with
  | nil => rfl
  | cons b bytes ih =>
    have hsplit : Utf8.encode (withBlanks ((b :: bytes).flatMap formByte)) =
        Utf8.encode (withBlanks (formByte b)) ++
          Utf8.encode (withBlanks (bytes.flatMap formByte)) := by
      simp only [withBlanks, Utf8.encode, List.flatMap_cons, List.map_append, List.flatMap_append]
    rw [hsplit, percentDecode_formByte, ih]

/-- Every text is read from what is written for it in a form. -/
theorem formDecode_formEncode (s : List Char) : formDecode (formEncode s) = s := by
  have hbytes := percentDecode_formBytes (Utf8.encode s)
  rw [withBlanks] at hbytes
  rw [formDecode, formEncode, hbytes, Utf8.decodeLossy, Utf8.decode_encode, List.map_map]
  exact List.map_id s

/-! ### Parameters -/

/-- The parameter that a part of a form spells: a name and a value, with an equals sign between. -/
def decodePair (segment : List Char) : String × String :=
  let (name, value) := (Text.cutAt? '=' segment).getD (segment, [])
  (String.ofList (formDecode name), String.ofList (formDecode value))

theorem cutAt?_formPair (pair : String × String) : Text.cutAt? '=' (formPair pair) =
    some (formEncode pair.1.toList, formEncode pair.2.toList) :=
  Text.cutAt?_append
    (fun hmem => forall_mem_formEncode (p := (· ≠ '=')) (by decide +kernel) '=' hmem rfl) _

/-- Every parameter is read from what is written for it in a form. -/
theorem decodePair_formPair (pair : String × String) : decodePair (formPair pair) = pair := by
  simp only [decodePair, cutAt?_formPair, Option.getD_some, formDecode_formEncode,
    String.ofList_toList]

/-- What holds of the equals sign and of the characters that may stand in a form holds of the
characters of a parameter in a form. -/
theorem forall_mem_formPair {p : Char → Prop}
    (h : ∀ n ∈ List.range 128, IsFormChar (Char.ofNat n) → p (Char.ofNat n)) (hequals : p '=')
    {pair : String × String} : ∀ c ∈ formPair pair, p c := by
  intro c hc
  rcases List.mem_append.1 hc with hc | hc
  · exact forall_mem_formEncode h c hc
  · rcases List.mem_cons.1 hc with rfl | hc
    · exact hequals
    · exact forall_mem_formEncode h c hc

end MapServices.Url
