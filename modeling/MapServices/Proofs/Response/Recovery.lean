import MapServices.Proofs.Response.Agreement
import MapServices.Proofs.Url.Split
import MapServices.Samples

/-!
# The document that was sent

A document comes back as it was sent, character by character, if its bytes are in an encoding that
neither its declaration nor its content type speaks against. It must start with an angle bracket
and not with a declaration of its own: white space before it would be cut off.

* `IsDocument` says what a document must be like.
* `NamesCharset` is what a content type says, parameter by parameter.
* `check_recovers_document`: the answer with the document is accepted, and no byte of it was
  malformed, in UTF-8 with or without a declaration, and in ISO-8859-1 with one.
-/

namespace MapServices

/-! ## Texts in ISO-8859-1 -/

namespace SingleByte

variable {c : Char} {s : List Char}

/-- The character has the byte with its number, in ISO-8859-1 and in windows-1252. -/
def IsLatin (c : Char) : Prop := c.toNat ≤ 0xFF ∧ ¬ (0x80 ≤ c.toNat ∧ c.toNat ≤ 0x9F)

instance : Decidable (IsLatin c) :=
  inferInstanceAs (Decidable (c.toNat ≤ 0xFF ∧ ¬ (0x80 ≤ c.toNat ∧ c.toNat ≤ 0x9F)))

theorem isLatin_of_ascii (h : c.toNat < 128) : IsLatin c := by
  unfold IsLatin
  omega

theorem decodeByte_of_isLatin (h : IsLatin c) :
    decodeByte westernWindows (UInt8.ofNat c.toNat) = some c := by
  have hall : ∀ n ∈ List.range 256, ¬ (0x80 ≤ n ∧ n ≤ 0x9F) →
      decodeByte westernWindows (UInt8.ofNat n) = some (Char.ofNat n) := by
    decide +kernel
  rw [hall c.toNat (List.mem_range.2 (Nat.lt_succ_of_le h.1)) h.2, Char.ofNat_toNat]

theorem encodeLatin?_eq (h : ∀ c ∈ s, IsLatin c) :
    encodeLatin? s = some (Response.charBytes s) := by
  induction s with
  | nil => rfl
  | cons c s ih =>
    have hc : c.toNat < 0x100 := Nat.lt_succ_of_le (h c List.mem_cons_self).1
    have hs := ih fun d hd => h d (List.mem_cons_of_mem _ hd)
    rw [encodeLatin?] at hs
    rw [encodeLatin?, List.mapM_cons, if_pos hc, hs]
    rfl

theorem decode_charBytes (h : ∀ c ∈ s, IsLatin c) :
    decode westernWindows (Response.charBytes s) = s.map some := by
  rw [decode, Response.charBytes, List.map_map]
  exact List.map_congr_left fun c hc => decodeByte_of_isLatin (h c hc)

end SingleByte

namespace Response

variable {serviceType : ServiceType} {version contentType encoding : Option String} {d : String}
  {e : Encoding} {indexes : Encoding.Indexes} {r : Response} {s : List Char}

/-! ## Documents and content types -/

/-- The document starts with its markup and not with a declaration, and its first element belongs to
what was asked for. -/
structure IsDocument (serviceType : ServiceType) (version : Option String) (d : String) :
    Prop where
  opens : d.toList.head? = some '<'
  bare : ¬ "<?xml".toList <+: d.toList
  root : ∃ root, Root.ofChars d.toList = .ok root ∧ accepts serviceType version root

/-- The parameter says that the charset has the label. White space around its name does not count,
nor do quotes and white space around the label. -/
def IsCharset (parameter : List Char) (label : String) : Prop :=
  ∃ name value, parameter = name ++ '=' :: value ∧ '=' ∉ name ∧
    Text.lower (Text.trim name) = "charset".toList ∧
    label.toList = Text.trim (charsetOfParameter?.dropQuotes (Text.trim value)) ∧ label ≠ ""

/-- One of the parameters, which stand behind semicolons, says that the charset has the label. -/
def NamesCharset (contentType label : String) : Prop :=
  ∃ parameter ∈ (contentType.toList.splitOn ';').drop 1, IsCharset parameter label

/-- The content type speaks of XML, and of no charset but the one with the label. -/
structure Suits (contentType label : String) : Prop where
  isXml : "xml".toList <:+: Text.lower contentType.toList
  charset : ∀ named, NamesCharset contentType named → Text.sameIgnoringCase named label

theorem charsetOfParameter?_eq_some_iff {parameter : List Char} {label : String} :
    charsetOfParameter? parameter = some label ↔ IsCharset parameter label := by
  have hlabel : ∀ value, Text.nonBlank? (String.ofList (charsetOfParameter?.dropQuotes value)) =
      some label ↔
        label.toList = Text.trim (charsetOfParameter?.dropQuotes value) ∧ label ≠ "" := by
    intro value
    rw [Text.nonBlank?_eq_some_iff, Text.trimmed, String.toList_ofList, ← String.toList_inj,
      String.toList_ofList]
  unfold charsetOfParameter?
  by_cases hmem : '=' ∈ parameter
  · obtain ⟨name, value, rfl, hname⟩ := List.eq_append_cons_of_mem hmem
    rw [Text.cutAt?_append hname]
    constructor
    · simp only
      split
      · rename_i hcharset
        rw [hlabel]
        exact fun h => ⟨name, value, rfl, hname, hcharset, h⟩
      · intro h
        cases h
    · rintro ⟨name', value', heq, hname', hcharset, h⟩
      have hcut := Text.cutAt?_append hname value
      rw [heq, Text.cutAt?_append hname'] at hcut
      cases hcut
      simp only [hcharset, if_true]
      exact (hlabel _).2 h
  · rw [Text.cutAt?_eq_none hmem]
    refine iff_of_false (Option.some_ne_none label).symm ?_
    rintro ⟨name, value, rfl, -⟩
    simp at hmem

theorem namesCharset_of_charset? {contentType label : String}
    (h : charset? contentType = some label) : NamesCharset contentType label := by
  obtain ⟨parameter, hparameter, hlabel⟩ := List.exists_of_findSome?_eq_some h
  exact ⟨parameter, hparameter, charsetOfParameter?_eq_some_iff.1 hlabel⟩

theorem Suits.isXmlType {contentType label : String} (h : Suits contentType label) :
    isXmlType contentType := by
  have hlowered : (Text.lowered contentType).toList = Text.lower contentType.toList :=
    String.toList_ofList
  rw [Response.isXmlType, Text.occurs, Text.occursIn_iff, hlowered]
  exact h.isXml

/-! ## The encoding -/

/-- The content type does not speak against the label of the declaration, or that of UTF-8. -/
theorem encoding_of_suits {label : String}
    (hdeclared : (declaredEncoding? r.body).getD "UTF-8" = label)
    (hsuits : ∀ value ∈ r.contentType, Suits value label) (he : Encoding.ofLabel? label = some e) :
    r.encoding = .ok e := by
  have hcharset : ∀ charset ∈ r.contentType.bind charset?,
      Text.sameIgnoringCase charset label := by
    intro charset hcharset
    obtain ⟨value, hvalue, hlabel⟩ := Option.bind_eq_some_iff.1 hcharset
    exact (hsuits value hvalue).charset charset (namesCharset_of_charset? hlabel)
  rw [encoding_eq_ok_iff]
  cases hfound : r.contentType.bind charset? with
  | none =>
    refine ⟨label, ?_, he⟩
    rw [← hdeclared]
    cases declaredEncoding? r.body <;> rfl
  | some charset =>
    have hsame := hcharset charset hfound
    refine ⟨charset, ?_, (ofLabel?_congr hsame).trans he⟩
    cases hlabel : declaredEncoding? r.body with
    | none => rfl
    | some declared =>
      rw [hlabel, Option.getD_some] at hdeclared
      rw [encodingLabel, hdeclared, if_pos hsame]

theorem extendsAscii_of_utf8 (h : e.scheme = .utf8) : e.extendsAscii := by
  rw [Encoding.extendsAscii, h]

theorem extendsAscii_of_singleByte {upper : List Nat} (h : e.scheme = .singleByte upper) :
    e.extendsAscii := by
  rw [Encoding.extendsAscii, h]

theorem decode_eq_of_characters {bytes : List UInt8}
    (h : e.characters indexes (e.dropMark bytes) = s.map some) :
    e.decode indexes bytes = ⟨s, false⟩ := by
  rw [Encoding.decode, h, List.map_map]
  congr 1
  · exact List.map_id s
  · simp

theorem charsOf_encode (hscheme : e.scheme = .utf8) (s : List Char) :
    e.charsOf indexes (Utf8.encode s) = s := by
  rw [Encoding.charsOf, Encoding.characters, hscheme]
  simp only [Utf8.decode_encode, List.map_map]
  exact List.map_id s

/-- A text that starts with an angle bracket is read from its bytes. -/
theorem decode_encode (hscheme : e.scheme = .utf8) (hs : s.head? = some '<') :
    e.decode indexes (Utf8.encode s) = ⟨s, false⟩ := by
  have hmark : e.dropMark (Utf8.encode s) = Utf8.encode s := by
    obtain ⟨s, rfl⟩ := List.head?_eq_some_iff.1 hs
    rw [dropMark_utf8 hscheme]
    exact dropUtf8Mark_cons (show (0x3C : UInt8) ≠ 0xEF by decide) (Utf8.encode s)
  refine decode_eq_of_characters ?_
  rw [hmark, Encoding.characters, hscheme]
  exact Utf8.decode_encode s

/-- A text of ISO-8859-1 is read in windows-1252. -/
theorem decode_charBytes (hscheme : e.scheme = .singleByte SingleByte.westernWindows)
    (hs : ∀ c ∈ s, SingleByte.IsLatin c) : e.decode indexes (charBytes s) = ⟨s, false⟩ := by
  refine decode_eq_of_characters ?_
  have hmark : e.dropMark (charBytes s) = charBytes s :=
    dropMark_of_ne (by simp [hscheme]) (by simp [hscheme]) _
  rw [hmark, Encoding.characters, hscheme]
  exact SingleByte.decode_charBytes hs

/-! ## The declaration -/

theorem stripDeclaration_of_isDocument (hd : IsDocument serviceType version d) :
    stripDeclaration d.toList = d.toList := by
  obtain ⟨s, hs⟩ : ∃ s, d.toList = '<' :: s := List.head?_eq_some_iff.1 hd.opens
  have hlead : Text.trimStart (dropMarks d.toList) = d.toList := by
    rw [hs]
    exact (isLead_blanks (List.forall_mem_nil _)).dropMarks_eq (by decide) (by decide) s
  rw [stripDeclaration, hlead]
  exact if_neg fun h => hd.bare (List.isPrefixOf_iff_prefix.1 h)

/-- No declaration is found in the bytes of a text that starts with none. -/
theorem declaration?_encode (he : e ∈ Encoding.all) (hscheme : e.scheme = .utf8)
    (hopens : s.head? = some '<') (hbare : ¬ "<?xml".toList <+: s) :
    declaration? (Utf8.encode s) = none := by
  refine declaration?_eq_none fun shown hshown => ?_
  obtain ⟨-, marks, spaces, tail, -, hmarks, hspaces, -, hbytes, -⟩ := hshown
  obtain ⟨t, ht⟩ : ∃ t, Utf8.encode s = 0x3C :: t := by
    obtain ⟨s, rfl⟩ := List.head?_eq_some_iff.1 hopens
    exact ⟨Utf8.encode s, rfl⟩
  obtain rfl : marks = [] := by
    simp only [List.mem_cons, List.not_mem_nil, or_false] at hmarks
    rcases hmarks with rfl | rfl | rfl
    · rfl
    · cases ht.symm.trans hbytes
    · cases ht.symm.trans hbytes
  have hreads := Encoding.extendsAscii_charsOf he (extendsAscii_of_utf8 hscheme) {}
  have hchars : s = spaces ++ "<?xml".toList ++ e.charsOf {} tail := by
    rw [← hreads.append (opening_ascii hspaces), ← List.nil_append (_ ++ tail), ← hbytes,
      charsOf_encode hscheme]
  cases spaces with
  | nil => exact hbare ⟨_, hchars.symm⟩
  | cons c spaces =>
    have hc := hspaces c List.mem_cons_self
    rw [hchars] at hopens
    cases hopens
    cases hc

/-- What the declaration in front of a sample says. -/
def sampleRest : Option String → List Char
  | some label => " version=\"1.0\" encoding=\"".toList ++ label.toList ++ ['"']
  | none => " version=\"1.0\"".toList

theorem sampleRest_none : sampleRest none = " version=\"1.0\"".toList := rfl

theorem sampleRest_some (label : String) : sampleRest (some label) =
    " version=\"1.0\" encoding=\"".toList ++ label.toList ++ ['"'] := rfl

/-- What the declaration of a sample says can be told from its bytes, and names the encoding. -/
structure IsPlain (encoding : Option String) : Prop where
  noClose : '>' ∉ sampleRest encoding
  ascii : ∀ c ∈ sampleRest encoding, c.toNat < 128
  label : labelOf? ⟨"xml".toList, sampleRest encoding⟩ = encoding

theorem isPlain_none : IsPlain none where
  noClose := by simp [sampleRest_none]
  ascii := by simp [sampleRest_none]
  label := by decide +kernel

theorem isPlain_utf8 : IsPlain (some "UTF-8") where
  noClose := by simp [sampleRest_some]
  ascii := by simp [sampleRest_some, or_imp, forall_and]
  label := by decide +kernel

theorem isPlain_latin : IsPlain (some "ISO-8859-1") where
  noClose := by simp [sampleRest_some]
  ascii := by simp [sampleRest_some, or_imp, forall_and]
  label := by decide +kernel

theorem toList_withDeclaration (d : String) (encoding : Option String) :
    (Samples.withDeclaration d encoding).toList =
      '<' :: ("?xml".toList ++ sampleRest encoding ++ '?' :: '>' :: '\n' :: d.toList) := by
  cases encoding with
  | none =>
    have hstart : "<?xml version=\"1.0\"?>\n".toList =
        '<' :: ("?xml".toList ++ sampleRest none ++ ['?', '>', '\n']) := by
      decide +kernel
    have hsample : Samples.withDeclaration d none = "<?xml version=\"1.0\"?>\n" ++ d := rfl
    rw [hsample, String.toList_append, hstart]
    simp only [List.append_assoc, List.cons_append, List.nil_append]
  | some label =>
    have hstart : "<?xml version=\"1.0\" encoding=\"".toList =
        '<' :: ("?xml".toList ++ " version=\"1.0\" encoding=\"".toList) := by
      decide +kernel
    have hend : "\"?>\n".toList = ['"', '?', '>', '\n'] := by decide +kernel
    have hsample : Samples.withDeclaration d (some label) =
        "<?xml version=\"1.0\" encoding=\"" ++ label ++ "\"?>\n" ++ d := rfl
    rw [hsample, String.toList_append, String.toList_append, String.toList_append, hstart, hend,
      sampleRest_some]
    simp only [List.append_assoc, List.cons_append, List.nil_append]

theorem declares_withDeclaration (h : IsPlain encoding) (d : String) :
    Declares (Samples.withDeclaration d encoding).toList [] (sampleRest encoding)
      ('\n' :: d.toList) where
  isLead := isLead_blanks (List.forall_mem_nil _)
  space := by cases encoding <;> simp [sampleRest_none, sampleRest_some] <;> rfl
  first hclose := by
    have hmem : '>' ∈ "<?xml".toList ++ sampleRest encoding ++ ['?'] := hclose.subset (by simp)
    simp [h.noClose] at hmem
  text_eq := toList_withDeclaration d encoding

theorem stripDeclaration_withDeclaration (h : IsPlain encoding)
    (hd : IsDocument serviceType version d) :
    stripDeclaration (Samples.withDeclaration d encoding).toList = d.toList := by
  have hblank : Text.isBlank '\n' = true := rfl
  rw [stripDeclaration_of_declares (declares_withDeclaration h d), Text.trimStart,
    List.dropWhile_cons_of_pos hblank]
  refine Text.trimStart_eq_self_iff.2 ?_
  rw [hd.opens]
  rintro _ ⟨⟩
  rfl

theorem isLatin_withDeclaration (h : IsPlain encoding)
    (hd : ∀ c ∈ d.toList, SingleByte.IsLatin c) :
    ∀ c ∈ (Samples.withDeclaration d encoding).toList, SingleByte.IsLatin c := by
  intro c hc
  rw [toList_withDeclaration, List.mem_cons, List.mem_append, List.mem_append, List.mem_cons,
    List.mem_cons, List.mem_cons] at hc
  rcases hc with rfl | (hc | hc) | rfl | rfl | rfl | hc
  · exact SingleByte.isLatin_of_ascii (by decide)
  · exact SingleByte.isLatin_of_ascii ((show ∀ c ∈ "?xml".toList, c.toNat < 128 by simp) c hc)
  · exact SingleByte.isLatin_of_ascii (h.ascii c hc)
  · exact SingleByte.isLatin_of_ascii (by decide)
  · exact SingleByte.isLatin_of_ascii (by decide)
  · exact SingleByte.isLatin_of_ascii (by decide)
  · exact hd c hc

/-- The label of a sample is the one that is found in its bytes. -/
theorem declaredEncoding?_withDeclaration {body : List UInt8} (he : e ∈ Encoding.all)
    (hascii : e.extendsAscii) (h : IsPlain encoding)
    (hdecode : (e.decode indexes body).text = (Samples.withDeclaration d encoding).toList) :
    declaredEncoding? body = encoding := by
  have hdeclares := declares_withDeclaration h d
  rw [← hdecode] at hdeclares
  have hsight : InSight e [] (sampleRest encoding) :=
    ⟨⟨[], [], rfl, .inl rfl, List.forall_mem_nil _⟩, h.noClose⟩
  have hshows := shows_of_inSight he hascii hdeclares h.ascii hsight
  rw [declaredEncoding?_eq (shows_iff.1 hshows) h.ascii, h.label]

/-! ## The check -/

theorem check_of_decode {text : List Char} (hstatus : r.status = 200)
    (hxml : ∀ value ∈ r.contentType, isXmlType value) (hencoding : r.encoding = .ok e)
    (hdecode : e.decode indexes r.body = ⟨text, false⟩) (hstrip : stripDeclaration text = d.toList)
    (hd : IsDocument serviceType version d) :
    r.check serviceType version indexes = (.ok ⟨e.name, d⟩, []) := by
  have hhead : r.checkHead = .ok () := by
    rw [checkHead, if_neg (not_not_intro hstatus)]
    cases hvalue : r.contentType with
    | none => rfl
    | some value => exact if_neg (by simp [hxml value hvalue])
  have htext : checkText serviceType version e.name text = .ok ⟨e.name, d⟩ := by
    rw [checkText_eq_ok_iff, hstrip, String.ofList_toList]
    exact ⟨checkRoot_eq_ok_iff.2 hd.root, rfl⟩
  have hfirst : (do r.checkHead; r.encoding) = .ok e :=
    Failure.bind_eq_ok.2 ⟨(), hhead, hencoding⟩
  rw [check, hfirst]
  simp only [hdecode, htext]
  rfl

/-- A document without a declaration comes back as it is. -/
theorem check_encode (he : Encoding.ofLabel? "UTF-8" = some e) (hscheme : e.scheme = .utf8)
    (hd : IsDocument serviceType version d) (hsuits : ∀ value ∈ contentType, Suits value "UTF-8") :
    check ⟨200, contentType, Utf8.encode d.toList⟩ serviceType version indexes =
      (.ok ⟨e.name, d⟩, []) := by
  have hnone := declaration?_encode (Encoding.mem_all_of_ofLabel? he) hscheme hd.opens hd.bare
  refine check_of_decode rfl (fun value hvalue => (hsuits value hvalue).isXmlType)
    (encoding_of_suits ?_ hsuits he) (decode_encode hscheme hd.opens)
    (stripDeclaration_of_isDocument hd) hd
  rw [declaredEncoding?, hnone]
  rfl

/-- A document with a declaration comes back without it. -/
theorem check_withDeclaration {body : List UInt8} (h : IsPlain encoding)
    (he : Encoding.ofLabel? (encoding.getD "UTF-8") = some e) (hascii : e.extendsAscii)
    (hd : IsDocument serviceType version d)
    (hsuits : ∀ value ∈ contentType, Suits value (encoding.getD "UTF-8"))
    (hdecode : e.decode indexes body = ⟨(Samples.withDeclaration d encoding).toList, false⟩) :
    check ⟨200, contentType, body⟩ serviceType version indexes = (.ok ⟨e.name, d⟩, []) := by
  have hdeclared : declaredEncoding? body = encoding :=
    declaredEncoding?_withDeclaration (Encoding.mem_all_of_ofLabel? he) hascii h
      (congrArg Encoding.Decoded.text hdecode)
  refine check_of_decode rfl (fun value hvalue => (hsuits value hvalue).isXmlType)
    (encoding_of_suits ?_ hsuits he) hdecode (stripDeclaration_withDeclaration h hd) hd
  exact congrArg (·.getD "UTF-8") hdeclared

theorem exists_utf8 : ∃ e, Encoding.ofLabel? "UTF-8" = some e ∧ e.name = "UTF-8" ∧
    e.scheme = .utf8 :=
  ⟨_, rfl, rfl, rfl⟩

theorem exists_westernWindows : ∃ e, Encoding.ofLabel? "ISO-8859-1" = some e ∧
    e.name = "windows-1252" ∧ e.scheme = .singleByte SingleByte.westernWindows :=
  ⟨_, rfl, rfl, rfl⟩

theorem check_utf8 (hd : IsDocument serviceType version d)
    (hsuits : ∀ value ∈ contentType, Suits value "UTF-8") :
    ∀ text ∈ [d, Samples.withDeclaration d none, Samples.withDeclaration d (some "UTF-8")],
      check ⟨200, contentType, Utf8.encode text.toList⟩ serviceType version indexes =
        (.ok ⟨"UTF-8", d⟩, []) := by
  obtain ⟨e, he, hname, hscheme⟩ := exists_utf8
  have hdeclared : ∀ encoding, IsPlain encoding → encoding.getD "UTF-8" = "UTF-8" →
      check ⟨200, contentType, Utf8.encode (Samples.withDeclaration d encoding).toList⟩
        serviceType version indexes = (.ok ⟨e.name, d⟩, []) := by
    intro encoding hplain hlabel
    have hopens : (Samples.withDeclaration d encoding).toList.head? = some '<' := by
      rw [toList_withDeclaration, List.head?_cons]
    exact check_withDeclaration hplain (by rwa [hlabel]) (extendsAscii_of_utf8 hscheme) hd
      (by rwa [hlabel]) (decode_encode hscheme hopens)
  have hbare : check ⟨200, contentType, Utf8.encode d.toList⟩ serviceType version indexes = _ :=
    check_encode he hscheme hd hsuits
  rw [hname] at hdeclared hbare
  rw [List.forall_mem_cons, List.forall_mem_cons, List.forall_mem_singleton]
  exact ⟨hbare, hdeclared none isPlain_none rfl, hdeclared (some "UTF-8") isPlain_utf8 rfl⟩

theorem check_latin (hd : IsDocument serviceType version d)
    (hsuits : ∀ value ∈ contentType, Suits value "ISO-8859-1")
    (hlatin : ∀ c ∈ d.toList, SingleByte.IsLatin c) :
    ∃ body, SingleByte.encodeLatin? (Samples.withDeclaration d (some "ISO-8859-1")).toList =
        some body ∧
      check ⟨200, contentType, body⟩ serviceType version indexes =
        (.ok ⟨"windows-1252", d⟩, []) := by
  obtain ⟨e, he, hname, hscheme⟩ := exists_westernWindows
  have htext := isLatin_withDeclaration isPlain_latin hlatin
  have hcheck : check ⟨200, contentType, _⟩ serviceType version indexes = (.ok ⟨e.name, d⟩, []) :=
    check_withDeclaration isPlain_latin he (extendsAscii_of_singleByte hscheme) hd hsuits
      (decode_charBytes hscheme htext)
  rw [hname] at hcheck
  exact ⟨_, SingleByte.encodeLatin?_eq htext, hcheck⟩

/-- A document comes back as it was sent, under the name of the encoding that it was sent in. -/
theorem check_recovers_document (hd : IsDocument serviceType version d) :
    ((∀ value ∈ contentType, Suits value "UTF-8") →
      ∀ text ∈ [d, Samples.withDeclaration d none, Samples.withDeclaration d (some "UTF-8")],
        check ⟨200, contentType, Utf8.encode text.toList⟩ serviceType version indexes =
          (.ok ⟨"UTF-8", d⟩, [])) ∧
    ((∀ value ∈ contentType, Suits value "ISO-8859-1") →
      (∀ c ∈ d.toList, SingleByte.IsLatin c) →
      ∃ body, SingleByte.encodeLatin? (Samples.withDeclaration d (some "ISO-8859-1")).toList =
          some body ∧
        check ⟨200, contentType, body⟩ serviceType version indexes =
          (.ok ⟨"windows-1252", d⟩, [])) :=
  ⟨check_utf8 hd, check_latin hd⟩

/-- A map service with a letter that is one byte in ISO-8859-1 and two in UTF-8. -/
def lakeDocument : String :=
  "<WMS_Capabilities xmlns='http://www.opengis.net/wms'><Service><Title>J\u00E4rvi</Title>" ++
    "</Service></WMS_Capabilities>"

/-- The letter comes back from either encoding. -/
theorem check_recovers_document_lake :
    check ⟨200, some "text/xml; charset=\"utf-8\"", Utf8.encode lakeDocument.toList⟩ .wms
        (some "1.3.0") = (.ok ⟨"UTF-8", lakeDocument⟩, []) ∧
      ∃ body, SingleByte.encodeLatin?
          (Samples.withDeclaration lakeDocument (some "ISO-8859-1")).toList = some body ∧
        check ⟨200, some "application/XML;version=1;Charset=iso-8859-1", body⟩ .wms
          (some "1.3.0") = (.ok ⟨"windows-1252", lakeDocument⟩, []) := by
  have hd : IsDocument .wms (some "1.3.0") lakeDocument := by
    refine ⟨by decide +kernel, by decide +kernel,
      ⟨some "http://www.opengis.net/wms", "WMS_Capabilities"⟩, ?_, by decide +kernel⟩
    exact Failure.toOption_eq_some.1 (by decide +kernel)
  have hsuits : ∀ contentType label, "xml".toList <:+: Text.lower contentType.toList →
      (∀ parameter ∈ (contentType.toList.splitOn ';').drop 1,
        ∀ named ∈ charsetOfParameter? parameter, Text.sameIgnoringCase named label) →
      ∀ value ∈ some contentType, Suits value label := by
    rintro contentType label hxml hcharset _ ⟨⟩
    refine ⟨hxml, fun named hnamed => ?_⟩
    obtain ⟨parameter, hparameter, hlabel⟩ := hnamed
    exact hcharset parameter hparameter named (charsetOfParameter?_eq_some_iff.2 hlabel)
  refine ⟨?unicode, ?latin⟩
  case unicode =>
    exact (check_recovers_document hd).1 (hsuits _ _ (by decide +kernel) (by decide +kernel)) _
      List.mem_cons_self
  case latin =>
    have hlatin : ∀ c ∈ lakeDocument.toList, SingleByte.IsLatin c := by
      have hall : lakeDocument.toList.all fun c => decide (SingleByte.IsLatin c) := by
        decide +kernel
      exact fun c hc => of_decide_eq_true (List.all_eq_true.1 hall c hc)
    exact (check_recovers_document hd).2 (hsuits _ _ (by decide +kernel) (by decide +kernel))
      hlatin

end Response

end MapServices
