import MapServices.Encoding.Basic
import MapServices.Proofs.Encoding.MultiByte
import MapServices.Proofs.Encoding.Utf8

/-!
# Encodings that extend ASCII

In most encodings a byte of ASCII stands for itself at the start of the bytes and behind each
character, and no other bytes stand for a character of ASCII. A byte of ASCII can still be the last
one of a longer sequence, but an angle bracket is never part of one. What a text starts with, and
where its first markup is, can then be told from its bytes.

This is not so in UTF-16, in ISO-2022-JP, and where a text is never shown.

* `Encoding.extendsAscii_charsOf`: all other encodings extend ASCII.
* `ExtendsAscii.exists_tail_append`: an ASCII text comes from its own bytes.
* `ExtendsAscii.exists_bracket`: the first angle bracket of a text is the first one in its bytes.
-/

namespace MapServices.Encoding

variable {indexes : Indexes} {e : Encoding} {bytes : List UInt8} {c : Char} {s s' : List Char}

/-- The text of the bytes, with a replacement character in the place of each fault. -/
def charsOf (e : Encoding) (indexes : Indexes) (bytes : List UInt8) : List Char :=
  (e.characters indexes bytes).map (·.getD Utf8.replacement)

theorem text_decode (e : Encoding) (indexes : Indexes) (bytes : List UInt8) :
    (e.decode indexes bytes).text = e.charsOf indexes (e.dropMark bytes) := rfl

theorem mem_all_of_ofLabel? {label : String} (h : ofLabel? label = some e) : e ∈ all :=
  List.mem_of_find?_eq_some h

/-! ## What the bytes tell of a text -/

/-- A byte of ASCII is read as itself. Any other byte starts a sequence: it gives characters beyond
ASCII, takes some of the bytes behind it but no angle bracket, and the bytes after those are read as
at the start. -/
structure ExtendsAscii (text : List UInt8 → List Char) : Prop where
  nil : text [] = []
  ascii : ∀ b rest, b.toNat < 128 → text (b :: rest) = Char.ofNat b.toNat :: text rest
  foreign : ∀ b rest, 128 ≤ b.toNat → ∃ out taken, out ≠ [] ∧ (∀ c ∈ out, 128 ≤ c.toNat) ∧
    0x3C ∉ rest.take taken ∧ text (b :: rest) = out ++ text (rest.drop taken)

namespace ExtendsAscii

variable {text : List UInt8 → List Char}

theorem exists_tail (h : ExtendsAscii text) (htext : text bytes = c :: s) (hc : c.toNat < 128) :
    ∃ tail, bytes = UInt8.ofNat c.toNat :: tail ∧ text tail = s := by
  cases bytes with
  | nil =>
    rw [h.nil] at htext
    cases htext
  | cons b rest =>
    by_cases hb : b.toNat < 128
    · rw [h.ascii b rest hb] at htext
      obtain ⟨rfl, hs⟩ := List.cons.inj htext
      refine ⟨rest, ?_, hs⟩
      rw [Text.toNat_ofNat (.inl (by omega)), UInt8.ofNat_toNat]
    · obtain ⟨out, taken, hne, hout, -, hrest⟩ := h.foreign b rest (by omega)
      obtain ⟨d, out, rfl⟩ := List.exists_cons_of_ne_nil hne
      rw [hrest] at htext
      obtain ⟨rfl, -⟩ := List.cons.inj htext
      have hd := hout d List.mem_cons_self
      omega

theorem exists_tail_append (h : ExtendsAscii text) (htext : text bytes = s ++ s')
    (hs : ∀ c ∈ s, c.toNat < 128) :
    ∃ tail, bytes = Utf8.encode s ++ tail ∧ text tail = s' := by
  rw [Utf8.encode_of_ascii hs]
  induction s generalizing bytes with
  | nil => exact ⟨bytes, rfl, htext⟩
  | cons c s ih =>
    obtain ⟨rest, rfl, hrest⟩ := h.exists_tail htext (hs c List.mem_cons_self)
    obtain ⟨tail, rfl, htail⟩ := ih hrest fun d hd => hs d (List.mem_cons_of_mem _ hd)
    exact ⟨tail, rfl, htail⟩

theorem append (h : ExtendsAscii text) (hs : ∀ c ∈ s, c.toNat < 128) (rest : List UInt8) :
    text (Utf8.encode s ++ rest) = s ++ text rest := by
  rw [Utf8.encode_of_ascii hs]
  induction s with
  | nil => rfl
  | cons c s ih =>
    have hc := hs c List.mem_cons_self
    have hnumber := Utf8.toNat_byte_of_ascii hc
    rw [List.map_cons, List.cons_append, h.ascii _ _ (by rwa [hnumber]),
      ih fun d hd => hs d (List.mem_cons_of_mem _ hd), hnumber, Char.ofNat_toNat]
    rfl

theorem ofNat_ne_bracket {b : UInt8} (hb : b.toNat < 128) (hne : b ≠ 0x3C) :
    Char.ofNat b.toNat ≠ '<' := by
  intro heq
  have hnumber := congrArg Char.toNat heq
  rw [Text.toNat_ofNat (.inl (by omega))] at hnumber
  exact hne (UInt8.toNat_inj.1 hnumber)

/-- The first angle bracket in the bytes is the first one in the text. -/
theorem exists_bracket (h : ExtendsAscii text) (hbytes : 0x3C ∉ bytes) (rest : List UInt8) :
    ∃ s, '<' ∉ s ∧ text (bytes ++ 0x3C :: rest) = s ++ '<' :: text rest := by
  -- a sequence takes several bytes at once, so the induction is on their number
  induction hlength : bytes.length using Nat.strongRecOn generalizing bytes with
  | ind n ih =>
    cases bytes with
    | nil => exact ⟨[], List.not_mem_nil, h.ascii 0x3C rest (by decide)⟩
    | cons b bytes =>
      obtain ⟨hne, hbytes⟩ := not_or.1 (mt List.mem_cons.2 hbytes)
      by_cases hb : b.toNat < 128
      · obtain ⟨s, hs, htext⟩ := ih bytes.length (by simp [← hlength]) hbytes rfl
        refine ⟨Char.ofNat b.toNat :: s, ?_, ?_⟩
        · rw [List.mem_cons, not_or]
          exact ⟨(ofNat_ne_bracket hb (Ne.symm hne)).symm, hs⟩
        · rw [List.cons_append, h.ascii b _ hb, htext, List.cons_append]
      · obtain ⟨out, taken, -, hout, htaken, htext⟩ :=
          h.foreign b (bytes ++ 0x3C :: rest) (by omega)
        have hle : taken ≤ bytes.length := by
          by_contra hlt
          refine htaken ?_
          rw [List.take_append, List.mem_append, List.take_cons (by omega)]
          exact .inr List.mem_cons_self
        obtain ⟨s, hs, hrest⟩ := ih (bytes.drop taken).length
          (by rw [List.length_drop, ← hlength, List.length_cons]; omega)
          (fun hmem => hbytes (List.mem_of_mem_drop hmem)) rfl
        refine ⟨out ++ s, ?_, ?_⟩
        · rw [List.mem_append, not_or]
          refine ⟨fun hmem => ?_, hs⟩
          exact absurd (hout '<' hmem) (by decide)
        · rw [List.cons_append, htext, List.drop_append_of_le_length hle, hrest, List.append_assoc]

end ExtendsAscii

/-! ## All encodings -/

/-- Whether the encoding extends ASCII. -/
def extendsAscii (e : Encoding) : Bool :=
  match e.scheme with
  | .utf16 _ | .iso2022Jp | .unreadable => false
  | _ => true

theorem extendsAscii_characters {characters : List UInt8 → List (Option Char)}
    (hnil : characters [] = [])
    (hascii : ∀ b rest, b.toNat < 128 →
      characters (b :: rest) = some (Char.ofNat b.toNat) :: characters rest)
    (hforeign : ∀ b rest, 128 ≤ b.toNat → ∃ out taken, out ≠ [] ∧
      (∀ c, some c ∈ out → 128 ≤ c.toNat) ∧ 0x3C ∉ rest.take taken ∧
      characters (b :: rest) = out ++ characters (rest.drop taken)) :
    ExtendsAscii fun bytes => (characters bytes).map (·.getD Utf8.replacement) where
  nil := by rw [hnil, List.map_nil]
  ascii b rest hb := by rw [hascii b rest hb, List.map_cons, Option.getD_some]
  foreign b rest hb := by
    obtain ⟨out, taken, hne, hout, htaken, hrest⟩ := hforeign b rest hb
    refine ⟨out.map (·.getD Utf8.replacement), taken, by simpa using hne, ?_, htaken, ?_⟩
    · rw [List.forall_mem_map]
      intro o ho
      cases o with
      | none => decide
      | some c => exact hout c ho
    · rw [hrest, List.map_append]

theorem extendsAscii_byteWise {character : UInt8 → Option Char}
    (hascii : ∀ b, b.toNat < 128 → character b = some (Char.ofNat b.toNat))
    (hforeign : ∀ b, 128 ≤ b.toNat → ∀ c ∈ character b, 128 ≤ c.toNat) :
    ExtendsAscii fun bytes => (bytes.map character).map (·.getD Utf8.replacement) := by
  refine extendsAscii_characters rfl ?_ ?_
  · intro b rest hb
    rw [List.map_cons, hascii b hb]
  · intro b rest hb
    refine ⟨[character b], 0, List.cons_ne_nil _ _, fun c hc => ?_, by simp, rfl⟩
    exact hforeign b hb c (List.mem_singleton.1 hc).symm

/-- A table holds numbers of characters beyond ASCII, and zeros. -/
def isTable (upper : List Nat) : Bool :=
  upper.all fun n => n = 0 || (128 ≤ n && (n < 0xD800 || (0xE000 ≤ n && n < 0x110000)))

theorem isTable_of_mem_all (he : e ∈ all) {upper : List Nat}
    (hscheme : e.scheme = .singleByte upper) : isTable upper := by
  have hall : (all.all fun e => match e.scheme with
      | .singleByte upper => isTable upper
      | _ => true) = true := by decide +kernel
  have h := List.all_eq_true.1 hall e he
  rwa [hscheme] at h

theorem extendsAscii_singleByte {upper : List Nat} (h : isTable upper) :
    ExtendsAscii fun bytes =>
      (SingleByte.decode upper bytes).map (·.getD Utf8.replacement) := by
  refine extendsAscii_byteWise (fun b hb => if_pos hb) fun b hb c hc => ?_
  rw [SingleByte.decodeByte, if_neg (Nat.not_lt.2 hb)] at hc
  obtain ⟨n, hn, rfl⟩ := Option.map_eq_some_iff.1 hc
  obtain ⟨hn, hzero⟩ := Option.filter_eq_some_iff.1 hn
  have hbound := List.all_eq_true.1 h n (List.mem_of_getElem? hn)
  simp only [decide_eq_true_eq] at hzero
  simp only [Bool.or_eq_true, Bool.and_eq_true, decide_eq_true_eq, hzero, false_or] at hbound
  have hvalid : n.isValidChar := by
    unfold Nat.isValidChar
    omega
  rw [Text.toNat_ofNat hvalid]
  exact hbound.1

theorem extendsAscii_privateUse :
    ExtendsAscii fun bytes =>
      (bytes.map fun b => some (privateUseChar b)).map (·.getD Utf8.replacement) := by
  refine extendsAscii_byteWise (fun b hb => congrArg some (if_pos hb)) fun b hb c hc => ?_
  have hlt := b.toNat_lt
  rw [← Option.mem_some_iff.1 hc, privateUseChar, if_neg (Nat.not_lt.2 hb),
    Text.toNat_ofNat (by unfold Nat.isValidChar; omega)]
  omega

theorem extendsAscii_utf8 :
    ExtendsAscii fun bytes => (Utf8.decode bytes).map (·.getD Utf8.replacement) := by
  refine extendsAscii_characters rfl (fun b rest hb => Utf8.decode_cons_of_lt hb rest) ?_
  intro b rest hb
  obtain ⟨o, taken, ho, htaken, hdecode⟩ := Utf8.exists_rest hb rest
  refine ⟨[o], taken, List.cons_ne_nil _ _, fun c hc => ?_, fun hmem => ?_, hdecode⟩
  · exact ho c (List.mem_singleton.1 hc).symm
  · exact absurd (htaken _ hmem) (by decide)

theorem extendsAscii_multiByte (form : MultiByte) :
    ExtendsAscii fun bytes => (form.decode indexes bytes).map (·.getD Utf8.replacement) := by
  refine extendsAscii_characters rfl ?_ ?_
  · intro b rest hb
    rw [MultiByte.decode_cons, MultiByte.piece_ascii form hb]
    rfl
  · intro b rest hb
    have hpiece : (form.piece indexes b rest).IsForeign rest := form.piece_isForeign hb rest
    obtain ⟨hne, hbeyond, hbracket⟩ := hpiece
    exact ⟨_, _, hne, hbeyond, hbracket, MultiByte.decode_cons form b rest⟩

/-- All encodings extend ASCII but those of UTF-16, ISO-2022-JP, and the one that shows no text. -/
theorem extendsAscii_charsOf (he : e ∈ all) (h : e.extendsAscii) (indexes : Indexes) :
    ExtendsAscii (e.charsOf indexes) := by
  unfold charsOf characters
  cases hscheme : e.scheme with
  | utf8 => exact extendsAscii_utf8
  | singleByte upper => exact extendsAscii_singleByte (isTable_of_mem_all he hscheme)
  | privateUse => exact extendsAscii_privateUse
  | multiByte form => exact extendsAscii_multiByte form
  | _ =>
    rw [extendsAscii, hscheme] at h
    cases h

theorem eq_replacement_of_unreadable (h : e.scheme = .unreadable)
    (hc : c ∈ e.charsOf indexes bytes) : c = Utf8.replacement := by
  simp only [charsOf, characters, h] at hc
  split at hc
  · cases hc
  · exact List.mem_singleton.1 hc

end MapServices.Encoding
