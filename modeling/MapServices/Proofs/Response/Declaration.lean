import MapServices.Proofs.Encoding.Utf16
import MapServices.Proofs.Lists
import MapServices.Proofs.Response.Check
import MapServices.Proofs.Text.Blank
import MapServices.Proofs.Xml.Declaration

/-!
# Declarations in a text and in its bytes

The declaration of a body is looked for in the bytes, and cut off from the decoded text. Where ASCII
is extended, a declaration that the bytes show is the one in the text, and the bytes show the one in
the text unless something hides it: white space that is none of markup before it, byte order marks
in too great a number, or an angle bracket inside of it.

* `Declares` says that a decoded text starts with a declaration, and `Shows` that bytes do.
* `shows_iff`: a declaration is found in the bytes if they show one.
* `Shows.rest_eq`: no other declaration is shown than the one in the text.
* `shows_of_inSight`: when the one in the text is shown.
-/

namespace MapServices.Response

open Xml (IsDeclaration Tag)

variable {text lead rest after shown : List Char} {body : List UInt8} {c : Char} {s : List Char}
  {e : Encoding} {indexes : Encoding.Indexes} {tag : Tag}

/-! ## Declarations in a text -/

/-- Byte order marks, and then white space: what is cut off before a declaration. -/
structure IsLead (lead : List Char) : Prop where
  split : ∃ marks blanks, lead = marks ++ blanks ∧
    (∀ c ∈ marks, c = Xml.Reader.byteOrderMark) ∧ ∀ c ∈ blanks, Text.isBlank c

/-- The decoded text starts with an XML declaration: `lead` stands before it, `rest` between its
name and its end, and `after` behind it. -/
structure Declares (text lead rest after : List Char) : Prop where
  isLead : IsLead lead
  space : rest.head?.any Xml.isSpace = true
  first : ¬ "?>".toList <:+: "<?xml".toList ++ rest ++ ['?']
  text_eq : text = lead ++ '<' :: ("?xml".toList ++ rest ++ '?' :: '>' :: after)

theorem IsLead.dropMarks_eq (h : IsLead lead) (hblank : Text.isBlank c = false)
    (hmark : c ≠ Xml.Reader.byteOrderMark) (s : List Char) :
    Text.trimStart (dropMarks (lead ++ c :: s)) = c :: s := by
  obtain ⟨marks, blanks, rfl, hmarks, hblanks⟩ := h
  have hdrop : dropMarks (marks ++ blanks ++ c :: s) = blanks ++ c :: s := by
    have hall : ∀ d ∈ marks, decide (d = Xml.Reader.byteOrderMark) = true :=
      fun d hd => decide_eq_true (hmarks d hd)
    rw [dropMarks, List.append_assoc, List.dropWhile_append_of_pos hall]
    cases blanks with
    | nil => exact List.dropWhile_cons_of_neg (by simpa using hmark)
    | cons d blanks =>
      refine List.dropWhile_cons_of_neg ?_
      rw [decide_eq_true_eq]
      rintro rfl
      exact absurd (hblanks _ List.mem_cons_self) (by decide)
  rw [hdrop, Text.trimStart, List.dropWhile_append_of_pos hblanks,
    List.dropWhile_cons_of_neg (by simp [hblank])]

/-- What stands before a document, and where the document starts, is determined by the text. -/
theorem IsLead.unique {lead' s' : List Char} {c' : Char} (h : IsLead lead) (h' : IsLead lead')
    (hc : Text.isBlank c = false ∧ c ≠ Xml.Reader.byteOrderMark)
    (hc' : Text.isBlank c' = false ∧ c' ≠ Xml.Reader.byteOrderMark)
    (heq : lead ++ c :: s = lead' ++ c' :: s') : lead = lead' ∧ c = c' ∧ s = s' := by
  have hdocument : c :: s = c' :: s' := by
    rw [← h.dropMarks_eq hc.1 hc.2 s, heq, h'.dropMarks_eq hc'.1 hc'.2 s']
  rw [hdocument] at heq
  exact ⟨List.append_cancel_right heq, List.cons.inj hdocument⟩

theorem stripDeclaration_of_declares (h : Declares text lead rest after) :
    stripDeclaration text = Text.trimStart after := by
  have hcut := Text.cut?_append h.first (show "?>".toList ≠ [] by decide) after
  have hdocument := h.isLead.dropMarks_eq (c := '<') (by decide) (by decide)
    ("?xml".toList ++ rest ++ '?' :: '>' :: after)
  have hform : '<' :: ("?xml".toList ++ rest ++ '?' :: '>' :: after) =
      "<?xml".toList ++ rest ++ "?>".toList ++ after := by
    simp
  rw [hform] at hdocument
  have hstart : "<?xml".toList.isPrefixOf ("<?xml".toList ++ rest ++ "?>".toList ++ after) := by
    rw [List.isPrefixOf_iff_prefix, List.append_assoc, List.append_assoc]
    exact List.prefix_append _ _
  rw [stripDeclaration, h.text_eq, hform, hdocument]
  simp only [hstart, if_true, hcut]

/-! ## Declarations in bytes -/

theorem dropUtf8Mark_append (bytes : List UInt8) : dropUtf8Mark (utf8Mark ++ bytes) = bytes := by
  rw [dropUtf8Mark, if_pos (List.isPrefixOf_iff_prefix.2 (List.prefix_append _ _))]
  rfl

theorem dropUtf8Mark_cons {b : UInt8} (hb : b ≠ 0xEF) (bytes : List UInt8) :
    dropUtf8Mark (b :: bytes) = b :: bytes := by
  rw [dropUtf8Mark, if_neg]
  intro hstart
  obtain ⟨tail, htail⟩ := List.isPrefixOf_iff_prefix.1 hstart
  exact hb (List.cons.inj htail).1.symm

theorem dropUtf8Mark_cases (bytes : List UInt8) :
    dropUtf8Mark bytes = bytes ∨ bytes = utf8Mark ++ dropUtf8Mark bytes := by
  by_cases h : utf8Mark.isPrefixOf bytes
  · obtain ⟨tail, rfl⟩ := List.isPrefixOf_iff_prefix.1 h
    rw [dropUtf8Mark_append]
    exact .inr rfl
  · exact .inl (if_neg h)

theorem dropMark_utf8 (h : e.scheme = .utf8) (bytes : List UInt8) :
    e.dropMark bytes = dropUtf8Mark bytes := by
  have hmark : e.byteOrderMark = utf8Mark := by
    rw [Encoding.byteOrderMark, h]
    rfl
  rw [Encoding.dropMark, dropUtf8Mark, hmark]
  rfl

theorem dropMark_of_ne (h : e.scheme ≠ .utf8) (hwide : ∀ order, e.scheme ≠ .utf16 order)
    (bytes : List UInt8) : e.dropMark bytes = bytes := by
  have hmark : e.byteOrderMark = [] := by
    unfold Encoding.byteOrderMark
    split
    · exact absurd ‹_› h
    · exact absurd ‹_› (hwide _)
    · exact absurd ‹_› (hwide _)
    · rfl
  rw [Encoding.dropMark, hmark]
  rfl

theorem byteChars_append (bytes bytes' : List UInt8) :
    byteChars (bytes ++ bytes') = byteChars bytes ++ byteChars bytes' := List.map_append

theorem byteChars_encode (hs : ∀ c ∈ s, c.toNat < 128) : byteChars (Utf8.encode s) = s := by
  rw [Utf8.encode_of_ascii hs, byteChars, List.map_map]
  refine (List.map_congr_left fun c hc => ?_).trans (List.map_id s)
  simp only [Function.comp_apply, Utf8.toNat_byte_of_ascii (hs c hc), Char.ofNat_toNat, id]

theorem charBytes_byteChars (bytes : List UInt8) : charBytes (byteChars bytes) = bytes := by
  rw [charBytes, byteChars, List.map_map]
  refine (List.map_congr_left fun b _ => ?_).trans (List.map_id bytes)
  have hlt := b.toNat_lt
  have hnumber : (Char.ofNat b.toNat).toNat = b.toNat := Text.toNat_ofNat (.inl (by omega))
  simp only [Function.comp_apply, id, hnumber, UInt8.ofNat_toNat]

theorem exists_of_byteChars {bytes : List UInt8} (hs : ∀ c ∈ s, c.toNat < 128) {t : List Char}
    (h : byteChars bytes = s ++ t) :
    ∃ tail, bytes = Utf8.encode s ++ tail ∧ byteChars tail = t := by
  obtain ⟨front, tail, rfl, hfront, htail⟩ := List.map_eq_append_iff.1 h
  refine ⟨tail, ?_, htail⟩
  rw [Utf8.encode_of_ascii hs, ← hfront]
  exact congrArg (· ++ tail) (charBytes_byteChars front).symm

/-- The body without the byte order marks that the search for a declaration passes over. -/
def withoutMarks (body : List UInt8) : List UInt8 := dropUtf8Mark (dropUtf8Mark body)

theorem declaration?_eq (body : List UInt8) :
    declaration? body = Xml.declarationOf? (byteChars (withoutMarks body)) := rfl

theorem body_cases (body : List UInt8) : body = withoutMarks body ∨
    body = utf8Mark ++ withoutMarks body ∨
    body = utf8Mark ++ (utf8Mark ++ withoutMarks body) := by
  unfold withoutMarks
  rcases dropUtf8Mark_cases body with hnone | hmark
  · rw [hnone, hnone]
    exact .inl rfl
  · rcases dropUtf8Mark_cases (dropUtf8Mark body) with hone | htwo
    · rw [hone]
      exact .inr (.inl hmark)
    · rw [← htwo]
      exact .inr (.inr hmark)

theorem withoutMarks_append {b : UInt8} (hb : b ≠ 0xEF) (bytes : List UInt8) :
    withoutMarks (b :: bytes) = b :: bytes ∧ withoutMarks (utf8Mark ++ b :: bytes) = b :: bytes ∧
      withoutMarks (utf8Mark ++ (utf8Mark ++ b :: bytes)) = b :: bytes := by
  simp only [withoutMarks, dropUtf8Mark_append, dropUtf8Mark_cons hb, and_self]

/-! ## When the bytes show a declaration -/

/-- The bytes of markup start with no byte order mark. -/
theorem ne_mark_of_ascii {b : UInt8} (h : b.toNat < 128) : b ≠ 0xEF := by
  rintro rfl
  exact absurd h (by decide)

theorem isSpace_ascii (h : Xml.isSpace c) : c.toNat < 128 :=
  Xml.forall_isSpace (p := fun c => c.toNat < 128) (by decide) (by decide) (by decide) (by decide) h

theorem opening_ascii {spaces : List Char} (hspaces : ∀ c ∈ spaces, Xml.isSpace c) :
    ∀ c ∈ spaces ++ "<?xml".toList, c.toNat < 128 := by
  intro c hc
  rcases List.mem_append.1 hc with hc | hc
  · exact isSpace_ascii (hspaces c hc)
  · exact (show ∀ c ∈ "<?xml".toList, c.toNat < 128 by simp) c hc

theorem closing_ascii {rest : List Char} (hrest : ∀ c ∈ rest, c.toNat < 128) :
    ∀ c ∈ rest ++ ['?', '>'], c.toNat < 128 := by
  intro c hc
  rcases List.mem_append.1 hc with hc | hc
  · exact hrest c hc
  · exact (show ∀ c ∈ ['?', '>'], c.toNat < 128 by simp) c hc

/-- The bytes show a declaration: before it stand byte order marks of UTF-8, two at most, and white
space of markup. It may end with the body. -/
structure Shows (body : List UInt8) (rest : List Char) : Prop where
  isDeclaration : IsDeclaration rest
  split : ∃ marks spaces tail close, marks ∈ [[], utf8Mark, utf8Mark ++ utf8Mark] ∧
    (∀ c ∈ spaces, Xml.isSpace c) ∧ (∀ c ∈ close.head?, c = '>') ∧
    body = marks ++ (Utf8.encode (spaces ++ "<?xml".toList) ++ tail) ∧
    byteChars tail = rest ++ '?' :: close

/-- White space of markup and the start of a declaration start with a byte of ASCII. -/
theorem exists_encode_opening {spaces : List Char} (hspaces : ∀ c ∈ spaces, Xml.isSpace c)
    (tail : List UInt8) : ∃ b bytes, b.toNat < 128 ∧
      Utf8.encode (spaces ++ "<?xml".toList) ++ tail = b :: bytes := by
  have hascii := opening_ascii hspaces
  obtain ⟨c, s, hs⟩ := List.exists_cons_of_ne_nil
    (show spaces ++ "<?xml".toList ≠ [] by simp)
  have hc : c.toNat < 128 := hascii c (hs ▸ List.mem_cons_self)
  rw [Utf8.encode_of_ascii hascii, hs]
  exact ⟨_, _, by rwa [Utf8.toNat_byte_of_ascii hc], rfl⟩

/-- The bytes show what is found in them. -/
theorem shows_of_declaration? (h : declaration? body = some tag) :
    tag.name = "xml".toList ∧ Shows body tag.rest := by
  have hmark : ∀ c ∈ (byteChars (withoutMarks body)).head?, c ≠ Xml.Reader.byteOrderMark := by
    intro c hc
    obtain ⟨b, -, rfl⟩ := List.mem_map.1 (List.mem_of_mem_head? hc)
    have hlt := b.toNat_lt
    intro heq
    have hnumber := congrArg Char.toNat heq
    rw [Text.toNat_ofNat (.inl (by omega))] at hnumber
    have hvalue : Xml.Reader.byteOrderMark.toNat = 0xFEFF := rfl
    omega
  obtain ⟨spaces, close, hspaces, hname, hdeclaration, hclose, hchars⟩ :=
    Xml.exists_of_declarationOf? hmark (declaration?_eq body ▸ h)
  have hform : byteChars (withoutMarks body) =
      spaces ++ "<?xml".toList ++ (tag.rest ++ '?' :: close) := by
    rw [hchars]
    simp
  obtain ⟨tail, hbytes, htail⟩ := exists_of_byteChars (opening_ascii hspaces) hform
  refine ⟨hname, hdeclaration, ?_⟩
  rcases body_cases body with hbody | hbody | hbody
  · exact ⟨[], spaces, tail, close, by simp, hspaces, hclose, hbody.trans hbytes, htail⟩
  · exact ⟨utf8Mark, spaces, tail, close, by simp, hspaces, hclose, hbytes ▸ hbody, htail⟩
  · refine ⟨utf8Mark ++ utf8Mark, spaces, tail, close, by simp, hspaces, hclose, ?_, htail⟩
    rwa [List.append_assoc, ← hbytes]

/-- A declaration is found if the bytes show one. -/
theorem shows_iff : Shows body rest ↔ declaration? body = some ⟨"xml".toList, rest⟩ := by
  refine ⟨?_, fun h => (shows_of_declaration? h).2⟩
  rintro ⟨hdeclaration, marks, spaces, tail, close, hmarks, hspaces, hclose, rfl, htail⟩
  have hwithout : withoutMarks (marks ++ (Utf8.encode (spaces ++ "<?xml".toList) ++ tail)) =
      Utf8.encode (spaces ++ "<?xml".toList) ++ tail := by
    obtain ⟨b, bytes, hb, hbytes⟩ := exists_encode_opening hspaces tail
    obtain ⟨hnone, hone, htwo⟩ := withoutMarks_append (ne_mark_of_ascii hb) bytes
    simp only [List.mem_cons, List.not_mem_nil, or_false] at hmarks
    rw [hbytes]
    rcases hmarks with rfl | rfl | rfl
    · exact hnone
    · exact hone
    · rwa [List.append_assoc]
  have hchars : byteChars (Utf8.encode (spaces ++ "<?xml".toList) ++ tail) =
      spaces ++ '<' :: ("?xml".toList ++ rest ++ '?' :: close) := by
    rw [byteChars_append, byteChars_encode (opening_ascii hspaces), htail]
    simp
  rw [declaration?_eq, hwithout, hchars]
  exact Xml.declarationOf?_of_opens hspaces hdeclaration hclose

theorem declaration?_eq_none (h : ∀ shown, ¬ Shows body shown) : declaration? body = none := by
  rw [Option.eq_none_iff_forall_not_mem]
  exact fun tag htag => h tag.rest (shows_of_declaration? htag).2

/-! ## The declaration in the text -/

theorem bracket_notMem_of_isLead (h : IsLead lead) : '<' ∉ lead := by
  obtain ⟨marks, blanks, rfl, hmarks, hblanks⟩ := h
  rw [List.mem_append, not_or]
  exact ⟨fun hmem => absurd (hmarks _ hmem) (by decide),
    fun hmem => absurd (hblanks _ hmem) (by decide)⟩

/-- No byte of what stands before a shown declaration is an angle bracket. -/
theorem bracket_notMem_bytes {marks : List UInt8} {spaces : List Char}
    (hmarks : marks ∈ [[], utf8Mark, utf8Mark ++ utf8Mark])
    (hspaces : ∀ c ∈ spaces, Xml.isSpace c) :
    0x3C ∉ marks ++ Utf8.encode spaces := by
  rw [List.mem_append, not_or]
  constructor
  · revert marks
    decide
  · rw [Utf8.encode_of_ascii fun c hc => isSpace_ascii (hspaces c hc), List.mem_map]
    rintro ⟨c, hc, heq⟩
    revert heq
    exact Xml.forall_isSpace (p := fun c => UInt8.ofNat c.toNat ≠ 0x3C) (by decide) (by decide)
      (by decide) (by decide) (hspaces c hc)

/-- Of the byte order marks before a shown declaration one at most is cut off. -/
theorem exists_dropMark {marks : List UInt8} {b : UInt8}
    (hmarks : marks ∈ [[], utf8Mark, utf8Mark ++ utf8Mark]) (hb : b.toNat < 128)
    (hwide : ∀ order, e.scheme ≠ .utf16 order) (bytes : List UInt8) :
    ∃ front ∈ [[], utf8Mark, utf8Mark ++ utf8Mark],
      e.dropMark (marks ++ b :: bytes) = front ++ b :: bytes := by
  by_cases hutf8 : e.scheme = .utf8
  · rw [dropMark_utf8 hutf8]
    simp only [List.mem_cons, List.not_mem_nil, or_false] at hmarks
    rcases hmarks with rfl | rfl | rfl
    · exact ⟨[], by simp, dropUtf8Mark_cons (ne_mark_of_ascii hb) bytes⟩
    · exact ⟨[], by simp, dropUtf8Mark_append _⟩
    · exact ⟨utf8Mark, by simp, by rw [List.append_assoc, dropUtf8Mark_append]⟩
  · exact ⟨marks, hmarks, dropMark_of_ne hutf8 hwide _⟩

theorem not_utf16_of_extendsAscii (h : e.extendsAscii) (order : Utf16.ByteOrder) :
    e.scheme ≠ .utf16 order := by
  intro hscheme
  rw [Encoding.extendsAscii, hscheme] at h
  cases h

/-- Where ASCII is extended, the shown declaration stands behind the first angle bracket of the
text. -/
theorem Shows.exists_text (h : Shows body shown) (he : e ∈ Encoding.all) (hascii : e.extendsAscii)
    (indexes : Encoding.Indexes) : ∃ front tail close, '<' ∉ front ∧
      (e.decode indexes body).text = front ++ '<' :: ("?xml".toList ++ e.charsOf indexes tail) ∧
      (∀ c ∈ close.head?, c = '>') ∧ byteChars tail = shown ++ '?' :: close := by
  obtain ⟨-, marks, spaces, tail, close, hmarks, hspaces, hclose, rfl, htail⟩ := h
  obtain ⟨b, bytes, hb, hbytes⟩ := exists_encode_opening hspaces tail
  obtain ⟨front, hfront, hdrop⟩ :=
    exists_dropMark hmarks hb (not_utf16_of_extendsAscii hascii) bytes
  have hreads := Encoding.extendsAscii_charsOf he hascii indexes
  have hopening : ∀ c ∈ "?xml".toList, c.toNat < 128 := by simp
  have hform : Utf8.encode (spaces ++ "<?xml".toList) ++ tail =
      Utf8.encode spaces ++ 0x3C :: (Utf8.encode "?xml".toList ++ tail) := by
    rw [Utf8.encode_of_ascii (opening_ascii hspaces),
      Utf8.encode_of_ascii fun c hc => isSpace_ascii (hspaces c hc),
      Utf8.encode_of_ascii hopening]
    simp
  obtain ⟨s, hs, htext⟩ := hreads.exists_bracket (bracket_notMem_bytes hfront hspaces)
    (Utf8.encode "?xml".toList ++ tail)
  refine ⟨s, tail, close, hs, ?_, hclose, htail⟩
  rw [Encoding.text_decode, hbytes, hdrop, ← hbytes, hform, ← List.append_assoc, htext,
    hreads.append hopening]

/-- A declaration ends with the first closing angle bracket if its end is the first one. -/
theorem eq_of_closes {close more : List Char} (hshown : '>' ∉ shown)
    (hfirst : ¬ "?>".toList <:+: rest ++ ['?']) (hclose : ∀ c ∈ close.head?, c = '>')
    (h : rest ++ '?' :: '>' :: more = shown ++ '?' :: close) : shown = rest := by
  obtain ⟨a, b, hsplit, ha⟩ := List.eq_append_cons_of_mem
    (show '>' ∈ rest ++ ['?', '>'] by simp)
  have hform : a ++ '>' :: (b ++ more) = (shown ++ ['?']) ++ close := by
    have heq := congrArg (· ++ more) hsplit
    simp only [List.append_assoc, List.cons_append, List.nil_append] at heq ⊢
    exact heq.symm.trans h
  have hfree : '>' ∉ shown ++ ['?'] := by simp [hshown]
  cases close with
  | nil =>
    have hmem : '>' ∈ (shown ++ ['?']) ++ [] := hform ▸ by simp
    exact absurd (by simpa using hmem) hshown
  | cons c close =>
    obtain rfl := hclose c rfl
    obtain ⟨rfl, -⟩ := Lists.append_cons_inj ha hfree hform
    rcases List.eq_nil_or_concat b with rfl | ⟨b, d, rfl⟩
    · have heq : rest ++ ['?', '>'] = shown ++ ['?', '>'] := by simpa using hsplit
      exact (List.append_cancel_right heq).symm
    · -- another end would stand before the end
      have heq : (rest ++ ['?']) ++ ['>'] = (shown ++ '?' :: '>' :: b) ++ [d] := by
        simpa using hsplit
      refine absurd ⟨shown, b, ?_⟩ hfirst
      rw [(List.append_inj' heq rfl).1]
      simp

/-- Where ASCII is extended, the bytes show no other declaration than the text. -/
theorem Shows.rest_eq (h : Shows body shown) (he : e ∈ Encoding.all) (hascii : e.extendsAscii)
    (hdeclares : Declares (e.decode indexes body).text lead rest after)
    (hrest : ∀ c ∈ rest, c.toNat < 128) : shown = rest := by
  obtain ⟨front, tail, close, hfront, htext, hclose, htail⟩ := h.exists_text he hascii indexes
  have hreads := Encoding.extendsAscii_charsOf he hascii indexes
  -- both start behind the first angle bracket of the text
  have hdocument : e.charsOf indexes tail = (rest ++ ['?', '>']) ++ after := by
    have hsplit := Lists.append_cons_inj (bracket_notMem_of_isLead hdeclares.isLead) hfront
      (hdeclares.text_eq.symm.trans htext)
    have heq := hsplit.2
    rw [List.append_assoc] at heq
    rw [← List.append_cancel_left heq]
    simp
  -- and both end with a closing one
  have hends := closing_ascii hrest
  obtain ⟨more, rfl, -⟩ := hreads.exists_tail_append hdocument hends
  rw [byteChars_append, byteChars_encode hends, List.append_assoc] at htail
  refine eq_of_closes h.isDeclaration.noClose (fun hinfix => hdeclares.first ?_) hclose htail
  exact hinfix.trans ⟨"<?xml".toList, [], by simp⟩

/-- A declaration in the text leaves no doubt about what the text starts with. -/
theorem Declares.unique {lead' : List Char} (h : Declares text lead rest after) (h' : IsLead lead')
    (hblank : Text.isBlank c = false) (hmark : c ≠ Xml.Reader.byteOrderMark)
    (heq : text = lead' ++ c :: s) :
    lead = lead' ∧ '<' = c ∧ "?xml".toList ++ rest ++ '?' :: '>' :: after = s :=
  h.isLead.unique h' ⟨by decide, by decide⟩ ⟨hblank, hmark⟩ (h.text_eq ▸ heq)

theorem isLead_blanks {blanks : List Char} (h : ∀ c ∈ blanks, Text.isBlank c) : IsLead blanks :=
  ⟨[], blanks, rfl, by simp, h⟩

theorem dropMark_utf16 {order : Utf16.ByteOrder} (hscheme : e.scheme = .utf16 order) {b : UInt8}
    (hb : b.toNat < 0xFE) (bytes : List UInt8) : e.dropMark (b :: bytes) = b :: bytes := by
  rw [Encoding.dropMark, if_neg]
  intro hstart
  obtain ⟨tail, htail⟩ := List.isPrefixOf_iff_prefix.1 hstart
  rw [Encoding.byteOrderMark, hscheme] at htail
  cases order <;>
    obtain rfl := (List.cons.inj htail).1 <;>
    exact absurd hb (by decide)

theorem exists_spaceBytes {spaces : List Char} (hspaces : ∀ c ∈ spaces, Xml.isSpace c)
    (tail : List UInt8) : ∃ bytes rest, (∀ b ∈ bytes, b ∈ Encoding.spaceBytes) ∧
      Utf8.encode (spaces ++ "<?xml".toList) ++ tail = bytes ++ 0x3C :: 0x3F :: rest := by
  refine ⟨spaces.map fun c => UInt8.ofNat c.toNat, 0x78 :: 0x6D :: 0x6C :: tail, ?_, ?_⟩
  · exact List.forall_mem_map.2 fun c hc =>
      Xml.forall_isSpace (p := fun c => UInt8.ofNat c.toNat ∈ Encoding.spaceBytes) (by decide)
        (by decide) (by decide) (by decide) (hspaces c hc)
  · rw [Utf8.encode_of_ascii (opening_ascii hspaces), List.map_append, List.append_assoc]
    rfl

/-- Bytes that show a declaration are no text in UTF-16 that starts with one. -/
theorem Shows.not_utf16 (h : Shows body shown)
    (hdeclares : Declares (e.decode indexes body).text lead rest after) (order : Utf16.ByteOrder) :
    e.scheme ≠ .utf16 order := by
  intro hscheme
  obtain ⟨-, marks, spaces, tail, close, hmarks, hspaces, -, rfl, -⟩ := h
  rw [Encoding.text_decode] at hdeclares
  -- the first two bytes of a byte order mark of UTF-8 are a character that no document starts with
  have hmarked : ∀ bytes, ¬ Declares
      (e.charsOf indexes (e.dropMark (0xEF :: 0xBB :: bytes))) lead rest after := by
    intro bytes hdeclares
    rw [dropMark_utf16 hscheme (by decide)] at hdeclares
    have htext : e.charsOf indexes (0xEF :: 0xBB :: bytes) =
        [] ++ Char.ofNat (Utf16.unit order 0xEF 0xBB) :: e.charsOf indexes bytes :=
      Encoding.charsOf_cons_cons hscheme (by cases order <;> decide) _
    obtain ⟨-, hlt, -⟩ := hdeclares.unique (isLead_blanks (by simp)) (by cases order <;> decide)
      (by cases order <;> decide) htext
    revert hlt
    cases order <;> decide
  simp only [List.mem_cons, List.not_mem_nil, or_false] at hmarks
  rcases hmarks with rfl | rfl | rfl
  · obtain ⟨bytes, more, hbytes, hencode⟩ := exists_spaceBytes hspaces tail
    have hdrop : e.dropMark (bytes ++ 0x3C :: 0x3F :: more) = bytes ++ 0x3C :: 0x3F :: more := by
      cases bytes with
      | nil => exact dropMark_utf16 hscheme (by decide) _
      | cons b bytes =>
        refine dropMark_utf16 hscheme ?_ _
        exact (show ∀ b ∈ Encoding.spaceBytes, b.toNat < 0xFE by simp [Encoding.spaceBytes]) b
          (hbytes b List.mem_cons_self)
    obtain ⟨blanks, c, s, htext, hblanks, hblank, hlt, hmark⟩ :=
      Encoding.exists_foreign hscheme bytes more hbytes
    rw [List.nil_append, hencode, hdrop] at hdeclares
    exact hlt (hdeclares.unique (isLead_blanks hblanks) hblank hmark htext).2.1.symm
  · exact hmarked _ hdeclares
  · exact hmarked _ hdeclares

/-- A text that starts with a declaration can be shown. -/
theorem Declares.readable (hdeclares : Declares (e.decode indexes body).text lead rest after) :
    e.scheme ≠ .unreadable := by
  intro hscheme
  have hmem : '<' ∈ e.charsOf indexes (e.dropMark body) := by
    rw [← Encoding.text_decode, hdeclares.text_eq]
    simp
  exact absurd (Encoding.eq_replacement_of_unreadable hscheme hmem) (by decide)

/-- Only where escape sequences are used do bytes show another declaration than the text. -/
theorem Shows.rest_eq_or (h : Shows body shown) (he : e ∈ Encoding.all)
    (hdeclares : Declares (e.decode indexes body).text lead rest after)
    (hrest : ∀ c ∈ rest, c.toNat < 128) : shown = rest ∨ e.scheme = .iso2022Jp := by
  by_cases hascii : e.extendsAscii
  · exact .inl (h.rest_eq he hascii hdeclares hrest)
  · unfold Encoding.extendsAscii at hascii
    split at hascii
    · exact absurd ‹_› (h.not_utf16 hdeclares _)
    · exact .inr ‹_›
    · exact absurd ‹_› hdeclares.readable
    · exact absurd rfl hascii

/-! ## When the declaration in the text is shown -/

/-- Nothing hides the declaration: at most white space of markup stands before it, in UTF-8 also a
byte order mark, and no angle bracket closes inside of it. -/
structure InSight (e : Encoding) (lead rest : List Char) : Prop where
  lead_split : ∃ marks spaces, lead = marks ++ spaces ∧
    (marks = [] ∨ e.scheme = .utf8 ∧ marks = [Xml.Reader.byteOrderMark]) ∧
    ∀ c ∈ spaces, Xml.isSpace c
  noClose : '>' ∉ rest

/-- White space of markup and a declaration. -/
def markup (spaces rest : List Char) : List Char :=
  spaces ++ "<?xml".toList ++ (rest ++ ['?', '>'])

theorem markup_ascii {spaces : List Char} (hspaces : ∀ c ∈ spaces, Xml.isSpace c)
    (hrest : ∀ c ∈ rest, c.toNat < 128) : ∀ c ∈ markup spaces rest, c.toNat < 128 := by
  intro c hc
  rcases List.mem_append.1 hc with hc | hc
  · exact opening_ascii hspaces c hc
  exact closing_ascii hrest c hc

theorem shows_markup {marks : List UInt8} {spaces : List Char}
    (hmarks : marks ∈ [[], utf8Mark, utf8Mark ++ utf8Mark]) (hspaces : ∀ c ∈ spaces, Xml.isSpace c)
    (hrest : ∀ c ∈ rest, c.toNat < 128) (h : IsDeclaration rest) (tail : List UInt8) :
    Shows (marks ++ (Utf8.encode (markup spaces rest) ++ tail)) rest := by
  have hends : ∀ c ∈ rest ++ ['?', '>'], c.toNat < 128 := fun c hc =>
    markup_ascii hspaces hrest c (List.mem_append_right _ hc)
  refine ⟨h, marks, spaces, Utf8.encode (rest ++ ['?', '>']) ++ tail, '>' :: byteChars tail, hmarks,
    hspaces, by simp, ?_, ?_⟩
  · rw [markup, Utf8.encode, List.flatMap_append, ← Utf8.encode, ← Utf8.encode, List.append_assoc]
  · rw [byteChars_append, byteChars_encode hends]
    simp

theorem exists_tail_of_mark {bytes : List UInt8} (hutf8 : e.scheme = .utf8)
    (h : e.charsOf indexes bytes = Xml.Reader.byteOrderMark :: s) :
    ∃ tail, bytes = utf8Mark ++ tail ∧ e.charsOf indexes tail = s := by
  have hchars : ∀ bytes, e.charsOf indexes bytes =
      (Utf8.decode bytes).map (·.getD Utf8.replacement) := fun bytes => by
    simp only [Encoding.charsOf, Encoding.characters, hutf8]
  rw [hchars] at h
  obtain ⟨o, t, hdecode, ho, rfl⟩ := List.map_eq_cons_iff.1 h
  cases o with
  | none => exact absurd ho (by decide)
  | some d =>
    obtain rfl : d = Xml.Reader.byteOrderMark := ho
    obtain ⟨tail, hbytes, rfl⟩ := Utf8.exists_tail hdecode (.inr rfl)
    exact ⟨tail, hbytes, hchars tail⟩

/-- Where ASCII is extended, the bytes show a declaration that nothing hides. -/
theorem shows_of_inSight (he : e ∈ Encoding.all) (hascii : e.extendsAscii)
    (hdeclares : Declares (e.decode indexes body).text lead rest after)
    (hrest : ∀ c ∈ rest, c.toNat < 128) (h : InSight e lead rest) : Shows body rest := by
  obtain ⟨⟨marks, spaces, rfl, hmarks, hspaces⟩, hclose⟩ := h
  have hreads := Encoding.extendsAscii_charsOf he hascii indexes
  have htext : e.charsOf indexes (e.dropMark body) = marks ++ (markup spaces rest ++ after) := by
    rw [← Encoding.text_decode, hdeclares.text_eq]
    simp [markup]
  have hmarkup : ∀ bytes, e.charsOf indexes bytes = markup spaces rest ++ after →
      ∃ tail, bytes = Utf8.encode (markup spaces rest) ++ tail := fun bytes h =>
    (hreads.exists_tail_append h (markup_ascii hspaces hrest)).imp fun _ => And.left
  have hshown : ∀ marks ∈ [[], utf8Mark, utf8Mark ++ utf8Mark], ∀ tail,
      Shows (marks ++ (Utf8.encode (markup spaces rest) ++ tail)) rest := fun _ hmarks =>
    shows_markup hmarks hspaces hrest ⟨hdeclares.space, hclose⟩
  have hbody : body = e.dropMark body ∨ body = utf8Mark ++ e.dropMark body := by
    by_cases hutf8 : e.scheme = .utf8
    · rw [dropMark_utf8 hutf8]
      exact (dropUtf8Mark_cases body).imp_left Eq.symm
    · exact .inl (dropMark_of_ne hutf8 (not_utf16_of_extendsAscii hascii) body).symm
  rcases hmarks with rfl | ⟨hutf8, rfl⟩
  · obtain ⟨tail, hdrop⟩ := hmarkup _ htext
    rw [hdrop] at hbody
    rcases hbody with rfl | rfl
    · exact hshown [] (by simp) tail
    · exact hshown utf8Mark (by simp) tail
  · -- the mark in the text is a second one in the bytes, or the only one
    obtain ⟨bytes, hdrop, hrest⟩ := exists_tail_of_mark hutf8 htext
    obtain ⟨tail, rfl⟩ := hmarkup _ hrest
    rw [hdrop] at hbody
    rcases hbody with rfl | rfl
    · exact hshown utf8Mark (by simp) tail
    · rw [← List.append_assoc]
      exact hshown (utf8Mark ++ utf8Mark) (by simp) tail

/-- White space of markup stands before a declaration like any other white space. -/
theorem isLead_of_spaces {spaces : List Char} (hspaces : ∀ c ∈ spaces, Xml.isSpace c) :
    IsLead spaces :=
  isLead_blanks fun c hc =>
    Xml.forall_isSpace (p := fun c => Text.isBlank c = true) rfl rfl rfl rfl (hspaces c hc)

end MapServices.Response
