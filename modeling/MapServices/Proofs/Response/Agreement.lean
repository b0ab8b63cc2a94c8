import MapServices.Proofs.Response.Declaration

/-!
# The encoding of an accepted answer

A label that the bytes show in their declaration is followed: the content type names no other one,
and the body is decoded with the encoding of the label. A declaration can be hidden in the bytes and
stand in the text nevertheless. It is then cut off, and its label is not looked at.

* `accepted_encoding`: the encoding of an accepted answer, and what it has to do with the label in
  its declaration.
-/

namespace MapServices.Response

open Xml (Tag)

variable {rest : List Char} {body : List UInt8} {e : Encoding} {indexes : Encoding.Indexes}
  {tag : Tag}

/-! ## Labels -/

/-- The label of an encoding that a declaration names. -/
def labelOf? (tag : Tag) : Option String :=
  (tag.attributesRepeating.attributes.find? (·.key = "encoding".toList)).bind fun a =>
    Text.nonBlank? (String.ofList a.value)

theorem declaredEncoding?_eq (h : declaration? body = some tag)
    (htag : ∀ c ∈ tag.rest, c.toNat < 128) : declaredEncoding? body = labelOf? tag := by
  rw [declaredEncoding?, h, labelOf?]
  simp only [Option.bind_eq_bind, Option.bind_some]
  cases hentry : tag.attributesRepeating.attributes.find? (·.key = "encoding".toList) with
  | none => rw [Option.bind_none, Option.bind_none]
  | some a =>
    have hascii : ∀ c ∈ a.value, c.toNat < 128 := by
      intro c hc
      have hmem := Xml.Attribute.mem_of_mem_value (List.mem_of_find?_eq_some hentry) hc
      exact htag c (hmem.resolve_left List.not_mem_nil)
    have hvalue : Utf8.decodeLossy (charBytes a.value) = a.value := by
      rw [Utf8.decodeLossy, charBytes, Utf8.decode_of_ascii hascii, List.map_map]
      exact List.map_id a.value
    rw [Option.bind_some, Option.bind_some, hvalue]

theorem ofLabel?_congr {a b : String} (h : Text.sameIgnoringCase a b) :
    Encoding.ofLabel? a = Encoding.ofLabel? b := by
  have hlower : Text.lower a.toList = Text.lower b.toList := eq_of_beq h
  have htrimmed : Text.lowered (Text.trimmed a) = Text.lowered (Text.trimmed b) := by
    simp only [Text.lowered, Text.trimmed, String.toList_ofList, Text.lower_trim, hlower]
  rw [Encoding.ofLabel?, Encoding.ofLabel?, htrimmed]

/-- The encoding is that of a label on which content type and declaration agree. -/
theorem encoding_eq_ok_iff {r : Response} : r.encoding = .ok e ↔
    ∃ label, encodingLabel (r.contentType.bind charset?) (declaredEncoding? r.body) = .ok label ∧
      Encoding.ofLabel? label = some e := by
  unfold Response.encoding
  cases hlabel : encodingLabel (r.contentType.bind charset?) (declaredEncoding? r.body) with
  | error labels => simp
  | ok label => cases hencoding : Encoding.ofLabel? label <;> simp [hencoding]

theorem agrees_of_encodingLabel {charset? : Option String} {declared label : String}
    (h : encodingLabel charset? (some declared) = .ok label) :
    (∀ charset ∈ charset?, Text.sameIgnoringCase charset declared) ∧
      Encoding.ofLabel? declared = Encoding.ofLabel? label := by
  cases charset? with
  | none =>
    obtain rfl : declared = label := Except.ok.inj h
    exact ⟨nofun, rfl⟩
  | some charset =>
    rw [encodingLabel] at h
    split at h
    · rename_i hsame
      obtain rfl : charset = label := Except.ok.inj h
      refine ⟨?_, (ofLabel?_congr hsame).symm⟩
      rintro _ ⟨⟩
      exact hsame
    · cases h

theorem encodingLabel_none (charset? : Option String) :
    encodingLabel charset? none = .ok (charset?.getD "UTF-8") := by
  cases charset? <;> rfl

/-- The answer follows a label: its content type names no other one, and its encoding is that of
the label. -/
structure Follows (r : Response) (label : String) (e : Encoding) : Prop where
  agrees : ∀ charset ∈ r.contentType.bind charset?, Text.sameIgnoringCase charset label
  encoding_eq : Encoding.ofLabel? label = some e

/-- A label that the bytes show is followed. -/
theorem follows_of_shows {r : Response} {label : String} (he : r.encoding = .ok e)
    (h : Shows r.body rest) (hrest : ∀ c ∈ rest, c.toNat < 128)
    (hlabel : labelOf? ⟨"xml".toList, rest⟩ = some label) : r.Follows label e := by
  obtain ⟨found, hfound, he⟩ := encoding_eq_ok_iff.1 he
  rw [declaredEncoding?_eq (shows_iff.1 h) hrest, hlabel] at hfound
  obtain ⟨hagrees, hsame⟩ := agrees_of_encodingLabel hfound
  exact ⟨hagrees, hsame.trans he⟩

/-- Without a declaration in the bytes the content type decides. -/
theorem ofLabel?_of_not_shows {r : Response} (he : r.encoding = .ok e)
    (h : ∀ shown, ¬ Shows r.body shown) :
    Encoding.ofLabel? ((r.contentType.bind charset?).getD "UTF-8") = some e := by
  obtain ⟨found, hfound, he⟩ := encoding_eq_ok_iff.1 he
  rw [declaredEncoding?, declaration?_eq_none h] at hfound
  cases (encodingLabel_none _).symm.trans hfound
  exact he

/-- What the label in the declaration of an accepted answer has to do with its encoding. If the
bytes show the declaration, the label is followed. Otherwise the content type decides, or, in
ISO-2022-JP, another declaration that the bytes show. Where ASCII is extended, the bytes show every
declaration that nothing hides. -/
theorem accepted_encoding {r : Response} {serviceType : ServiceType} {version : Option String}
    {checked : CheckedBody} (h : (r.check serviceType version indexes).1 = .ok checked) :
    ∃ e ∈ Encoding.all, checked.encoding = e.name ∧
      ∀ lead rest after label, Declares (e.decode indexes r.body).text lead rest after →
        (∀ c ∈ rest, c.toNat < 128) → labelOf? ⟨"xml".toList, rest⟩ = some label →
        checked.data = String.ofList (Text.trimStart after) ∧
        (Shows r.body rest → r.Follows label e) ∧
        (¬ Shows r.body rest →
          (∀ shown, ¬ Shows r.body shown) ∧
              Encoding.ofLabel? ((r.contentType.bind charset?).getD "UTF-8") = some e ∨
            e.scheme = .iso2022Jp ∧ ∃ shown, Shows r.body shown ∧
              ((∀ c ∈ shown, c.toNat < 128) →
                ∀ other ∈ labelOf? ⟨"xml".toList, shown⟩, r.Follows other e)) ∧
        (e.extendsAscii → InSight e lead rest → Shows r.body rest) := by
  obtain ⟨-, e, hencoding, -, rfl⟩ := check_eq_ok_iff.1 h
  obtain ⟨found, -, he⟩ := encoding_eq_ok_iff.1 hencoding
  have hall : e ∈ Encoding.all := Encoding.mem_all_of_ofLabel? he
  refine ⟨e, hall, rfl, fun lead rest after label hdeclares hrest hlabel => ⟨?_, ?_, ?_, ?_⟩⟩
  · exact congrArg String.ofList (stripDeclaration_of_declares hdeclares)
  · exact fun hshows => follows_of_shows hencoding hshows hrest hlabel
  · intro hhidden
    by_cases hnone : ∀ shown, ¬ Shows r.body shown
    · exact .inl ⟨hnone, ofLabel?_of_not_shows hencoding hnone⟩
    · obtain ⟨shown, hshown⟩ := not_forall_not.1 hnone
      rcases hshown.rest_eq_or hall hdeclares hrest with rfl | hscheme
      · exact absurd hshown hhidden
      · exact .inr ⟨hscheme, shown, hshown, fun hascii other hother =>
          follows_of_shows hencoding hshown hascii hother⟩
  · exact fun hascii hsight => shows_of_inSight hall hascii hdeclares hrest hsight

/-! ## Labels that are not looked at -/

/-- An empty map service. -/
def emptyRoot : String := "<WMS_Capabilities xmlns='http://www.opengis.net/wms'/>"

/-- What a declaration of that document says. -/
def declaredRest : String := " version='1.0' encoding='ISO-8859-1'"

/-- The document with the declaration in front. -/
def declaredDocument : List Char :=
  '<' :: ("?xml".toList ++ declaredRest.toList ++ '?' :: '>' :: emptyRoot.toList)

/-- The document behind a line feed, in the encoding that it names. -/
def plainAnswer : Response where
  status := 200
  contentType := some "text/xml; charset=\"iso-8859-1\""
  body := 0x0A :: Utf8.encode declaredDocument

/-- The document in UTF-16, with a byte order mark and a content type that tells of UTF-16. -/
def wideAnswer : Response where
  status := 200
  contentType := some "text/xml; charset=utf-16"
  body := 0xFF :: 0xFE :: declaredDocument.flatMap fun c => [UInt8.ofNat c.toNat, 0]

/-- The document behind an escape sequence, with a content type that tells of ISO-2022-JP. -/
def escapedAnswer : Response where
  status := 200
  contentType := some "text/xml; charset=iso-2022-jp"
  body := 0x1B :: 0x28 :: 0x42 :: Utf8.encode declaredDocument

theorem declares_declaredDocument {lead : List Char} (h : IsLead lead) :
    Declares (lead ++ declaredDocument) lead declaredRest.toList emptyRoot.toList :=
  ⟨h, by decide +kernel, by decide +kernel, rfl⟩

theorem declaredRest_ascii : ∀ c ∈ declaredRest.toList, c.toNat < 128 := by simp [declaredRest]

theorem labelOf?_declaredRest :
    labelOf? ⟨"xml".toList, declaredRest.toList⟩ = some "ISO-8859-1" := by decide +kernel

/-- A label that the bytes show is followed. In UTF-16 and behind an escape sequence they do not
show it, and the answer is accepted although its two labels do not agree. -/
theorem accepted_encoding_wide :
    ((plainAnswer.check .wms none).1 = .ok ⟨"windows-1252", emptyRoot⟩ ∧
      ∃ e, plainAnswer.Follows "ISO-8859-1" e ∧ e.name = "windows-1252" ∧
        Text.sameIgnoringCase "iso-8859-1" "ISO-8859-1") ∧
    ∀ sample ∈ [(wideAnswer, "utf-16", "UTF-16LE"), (escapedAnswer, "iso-2022-jp", "ISO-2022-JP")],
      (sample.1.check .wms none).1 = .ok ⟨sample.2.2, emptyRoot⟩ ∧
      ∃ e, Encoding.ofLabel? sample.2.1 = some e ∧ e.name = sample.2.2 ∧
        Declares (e.decode {} sample.1.body).text [] declaredRest.toList emptyRoot.toList ∧
        labelOf? ⟨"xml".toList, declaredRest.toList⟩ = some "ISO-8859-1" ∧
        ¬ Text.sameIgnoringCase sample.2.1 "ISO-8859-1" := by
  refine ⟨?shown, ?hidden⟩
  case shown =>
    have hcheck : (plainAnswer.check .wms none).1 = .ok ⟨"windows-1252", emptyRoot⟩ :=
      Failure.toOption_eq_some.1 (by decide +kernel)
    have hall : ∀ e ∈ Encoding.all, e.name = "windows-1252" →
        e.extendsAscii ∧ (e.decode {} plainAnswer.body).text = '\n' :: declaredDocument := by
      decide +kernel
    obtain ⟨e, he, hname, h⟩ := accepted_encoding hcheck
    obtain ⟨hascii, htext⟩ := hall e he hname.symm
    have hspaces : ∀ c ∈ ['\n'], Xml.isSpace c := List.forall_mem_singleton.2 rfl
    have hdeclares : Declares (e.decode {} plainAnswer.body).text ['\n'] declaredRest.toList
        emptyRoot.toList := by
      rw [htext]
      exact declares_declaredDocument (isLead_of_spaces hspaces)
    have hsight : InSight e ['\n'] declaredRest.toList :=
      ⟨⟨[], ['\n'], rfl, .inl rfl, hspaces⟩, by decide +kernel⟩
    obtain ⟨-, hfollows, -, hshows⟩ :=
      h _ _ _ _ hdeclares declaredRest_ascii labelOf?_declaredRest
    have hlabel := hfollows (hshows hascii hsight)
    exact ⟨hcheck, e, hlabel, hname.symm, hlabel.agrees "iso-8859-1" (by decide +kernel)⟩
  case hidden =>
    intro sample hsample
    have hall : ∀ sample ∈ [(wideAnswer, "utf-16", "UTF-16LE"),
          (escapedAnswer, "iso-2022-jp", "ISO-2022-JP")],
        (sample.1.check .wms none).1.toOption = some ⟨sample.2.2, emptyRoot⟩ ∧
          declaration? sample.1.body = none ∧
          sample.1.contentType.bind charset? = some sample.2.1 ∧
          ¬ Text.sameIgnoringCase sample.2.1 "ISO-8859-1" ∧
          ∀ e ∈ Encoding.all, e.name = sample.2.2 →
            (e.decode {} sample.1.body).text = declaredDocument := by
      decide +kernel
    obtain ⟨haccepted, hnone, hcharset, hdiffers, htext⟩ := hall sample hsample
    have hcheck := Failure.toOption_eq_some.1 haccepted
    have hhidden : ∀ shown, ¬ Shows sample.1.body shown := fun shown hshown => by
      cases hnone.symm.trans (shows_iff.1 hshown)
    obtain ⟨e, he, hname, h⟩ := accepted_encoding hcheck
    have hdeclares : Declares (e.decode {} sample.1.body).text [] declaredRest.toList
        emptyRoot.toList := by
      rw [htext e he hname.symm]
      exact declares_declaredDocument (isLead_blanks (List.forall_mem_nil _))
    obtain ⟨-, -, hunseen, -⟩ := h _ _ _ _ hdeclares declaredRest_ascii labelOf?_declaredRest
    rcases hunseen (hhidden _) with ⟨-, hencoding⟩ | ⟨-, shown, hshown, -⟩
    · rw [hcharset] at hencoding
      exact ⟨hcheck, e, hencoding, hname.symm, hdeclares, labelOf?_declaredRest, hdiffers⟩
    · exact absurd hshown (hhidden shown)

end MapServices.Response
