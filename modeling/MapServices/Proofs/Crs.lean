import Mathlib.Data.List.DropRight
import MapServices.Crs
import MapServices.Proofs.Text.Ascii
import MapServices.Proofs.Text.Blank

/-!
# One spelling for each reference system

A name tells a code of the EPSG registry if it speaks of the registry anywhere, and if the last of
its parts that are not empty is a number. All names that tell a code are written in one way, and no
two codes in the same way. All other names are left alone.

* `lastPart?_eq_some_iff`: what the last part of a name is.
* `TellsCode.of_cut`, `Spells.tellsCode`: names that tell a code.
* `isCanonical_normalize`: what normalizing makes of all names.
-/

namespace MapServices.Crs

open Text (isBlank lower upper trim)

variable {s t name part code word before after tail : List Char}

/-! ### The last part -/

/-- The part is not empty, and of the parts that are not it stands last between the separators. -/
structure IsLastPart (part name : List Char) : Prop where
  ne_nil : part ≠ []
  plain : ∀ c ∈ part, isSeparator c = false
  exists_cut : ∃ before after, name = before ++ part ++ after ∧
    (∀ c ∈ before.getLast?, isSeparator c) ∧ ∀ c ∈ after, isSeparator c

/-- The parts of a name that are not empty. -/
def parts (s : List Char) : List (List Char) := (s.splitOnP isSeparator).filter (!·.isEmpty)

theorem parts_append_cons {c : Char} (hc : isSeparator c) (s t : List Char) :
    parts (s ++ c :: t) = parts s ++ parts t := by
  rw [parts, List.splitOnP_append_cons s t hc, List.filter_append, parts, parts]

theorem parts_eq_nil (h : ∀ c ∈ s, isSeparator c) : parts s = [] := by
  induction s with
  | nil => rfl
  | cons c s ih =>
    obtain ⟨hc, hs⟩ := List.forall_mem_cons.1 h
    have hcons : parts (c :: s) = parts s := parts_append_cons hc [] s
    rw [hcons, ih hs]

theorem parts_eq_singleton (hne : part ≠ []) (h : ∀ c ∈ part, isSeparator c = false) :
    parts part = [part] := by
  rw [parts, List.splitOnP_eq_singleton h, List.filter_cons_of_pos (by simpa using hne),
    List.filter_nil]

theorem lastPart?_eq_none (h : ∀ c ∈ s, isSeparator c) : lastPart? s = none :=
  List.getLast?_eq_none_iff.2 (parts_eq_nil h)

theorem IsLastPart.lastPart?_eq (h : IsLastPart part s) : lastPart? s = some part := by
  obtain ⟨hne, hplain, before, after, rfl, hbefore, hafter⟩ := h
  have hfront : parts (before ++ part) = parts before ++ [part] := by
    rcases List.eq_nil_or_concat before with rfl | ⟨front, c, rfl⟩
    · exact parts_eq_singleton hne hplain
    · have hc : isSeparator c := hbefore c (by simp)
      rw [List.concat_eq_append, List.append_assoc, List.singleton_append, parts_append_cons hc,
        parts_append_cons hc, parts_eq_singleton hne hplain, parts_eq_nil (s := []) nofun,
        List.append_nil]
  have hwhole : parts (before ++ part ++ after) = parts (before ++ part) := by
    cases after with
    | nil => rw [List.append_nil]
    | cons c after =>
      obtain ⟨hc, hafter⟩ := List.forall_mem_cons.1 hafter
      rw [parts_append_cons hc, parts_eq_nil hafter, List.append_nil]
  change (parts (before ++ part ++ after)).getLast? = some part
  rw [hwhole, hfront, List.getLast?_concat]

/-- A name with anything but separators in it has a last part. -/
theorem exists_isLastPart (h : ¬ ∀ c ∈ s, isSeparator c) : ∃ part, IsLastPart part s := by
  obtain ⟨front, hfront⟩ : ∃ front, front = s.rdropWhile isSeparator := ⟨_, rfl⟩
  have hne : front ≠ [] := by
    rw [hfront, Ne, List.rdropWhile_eq_nil_iff]
    exact h
  have hlast : isSeparator (front.getLast hne) = false := by
    subst hfront
    simpa using List.rdropWhile_last_not isSeparator s hne
  refine ⟨front.rtakeWhile (!isSeparator ·), ?_, ?_,
    front.rdropWhile (!isSeparator ·), s.rtakeWhile isSeparator, ?_, ?_, ?_⟩
  · rw [Ne, List.rtakeWhile_eq_nil_iff]
    exact fun hall => hall hne (by simpa using hlast)
  · intro c hc
    simpa using List.mem_rtakeWhile_imp hc
  · rw [List.rdropWhile_append_rtakeWhile, hfront, List.rdropWhile_append_rtakeWhile]
  · intro c hc
    obtain ⟨hnil, rfl⟩ := List.mem_getLast?_eq_getLast hc
    simpa using List.rdropWhile_last_not (!isSeparator ·) front hnil
  · exact fun c hc => List.mem_rtakeWhile_imp hc

theorem lastPart?_eq_some_iff : lastPart? s = some part ↔ IsLastPart part s := by
  refine ⟨fun h => ?_, IsLastPart.lastPart?_eq⟩
  by_cases hall : ∀ c ∈ s, isSeparator c
  · rw [lastPart?_eq_none hall] at h
    cases h
  · obtain ⟨other, hother⟩ := exists_isLastPart hall
    rw [hother.lastPart?_eq] at h
    exact Option.some.inj h ▸ hother

/-! ### Names that tell a code -/

/-- The name speaks of the EPSG registry, in whatever letter case. -/
def SpeaksOfRegistry (name : List Char) : Prop :=
  ∃ word, lower word = "epsg".toList ∧ word <:+: name

/-- A code of the registry is a number. -/
structure IsCode (code : List Char) : Prop where
  ne_nil : code ≠ []
  digits : ∀ c ∈ code, c.isDigit

/-- The name speaks of the registry, and ends with a number but for separators and white space. -/
structure TellsCode (name code : List Char) : Prop where
  speaks : SpeaksOfRegistry name
  last : IsLastPart code (trim name)
  isCode : IsCode code

theorem upper_eq_iff : upper word = "EPSG".toList ↔ lower word = "epsg".toList := by
  constructor
  · intro h
    calc lower word
      _ = lower (upper word) := (Text.lower_upper word).symm
      _ = "epsg".toList := by rw [h]; decide
  · intro h
    calc upper word
      _ = upper (lower word) := (Text.upper_lower word).symm
      _ = "EPSG".toList := by rw [h]; decide

theorem occursIn_upper_iff :
    Text.occursIn ['E', 'P', 'S', 'G'] (upper name) ↔ SpeaksOfRegistry name := by
  rw [Text.occursIn_iff, upper, List.infix_map_iff]
  refine exists_congr fun word => ?_
  rw [← upper_eq_iff]
  exact ⟨fun h => ⟨h.2.symm, h.1⟩, fun h => ⟨h.2, h.1.symm⟩⟩

theorem isBlank_of_lower_eq (h : lower word = "epsg".toList) : ∀ c ∈ word, isBlank c = false := by
  intro c hc
  have hmem : c.toLower ∈ "epsg".toList := by
    rw [← h, lower]
    exact List.mem_map_of_mem hc
  have hplain : "epsg".toList.all (!isBlank ·) := by decide
  rw [← Text.isBlank_toLower]
  simpa using List.all_eq_true.1 hplain _ hmem

theorem speaksOfRegistry_trim_iff : SpeaksOfRegistry (trim name) ↔ SpeaksOfRegistry name := by
  constructor
  · rintro ⟨word, hword, hin⟩
    exact ⟨word, hword, hin.trans (Text.trim_isInfix name)⟩
  · rintro ⟨word, hword, hin⟩
    refine ⟨word, hword, Text.isInfix_trim ?_ (isBlank_of_lower_eq hword) hin⟩
    rintro rfl
    cases hword

theorem epsgCode?_trim_eq_some_iff : epsgCode? (trim name) = some code ↔ TellsCode name code := by
  rw [epsgCode?]
  split
  · rename_i hspeaks
    rw [occursIn_upper_iff, speaksOfRegistry_trim_iff] at hspeaks
    rw [Option.filter_eq_some_iff, lastPart?_eq_some_iff, List.all_eq_true]
    exact ⟨fun h => ⟨hspeaks, h.1, h.1.ne_nil, h.2⟩, fun h => ⟨h.last, h.isCode.digits⟩⟩
  · rename_i hspeaks
    rw [occursIn_upper_iff, speaksOfRegistry_trim_iff] at hspeaks
    exact iff_of_false nofun fun h => hspeaks h.speaks

theorem normalize_of_tellsCode {s : String} (h : TellsCode s.toList code) :
    normalize s = "EPSG:" ++ String.ofList code := by
  rw [normalize, normalizeChars]
  simp only [epsgCode?_trim_eq_some_iff.2 h, String.ofList_append]

theorem normalize_of_not_tellsCode {s : String} (h : ∀ code, ¬ TellsCode s.toList code) :
    normalize s = Text.trimmed s := by
  have hnone : epsgCode? (trim s.toList) = none :=
    Option.eq_none_iff_forall_ne_some.2 fun code hcode =>
      h code (epsgCode?_trim_eq_some_iff.1 hcode)
  rw [normalize, normalizeChars]
  simp only [hnone]
  rfl

theorem isSeparator_of_isDigit {c : Char} (h : c.isDigit) : isSeparator c = false :=
  Text.forall_digit (p := fun c => isSeparator c = false) (by decide) h

theorem isBlank_of_isSeparator {c : Char} (h : isSeparator c) : isBlank c = false := by
  rw [isSeparator, Bool.or_eq_true, decide_eq_true_eq, decide_eq_true_eq] at h
  rcases h with rfl | rfl <;> decide

/-- A name tells what stands behind a separator, if nothing but separators and then white space
follows. -/
theorem TellsCode.of_cut {sep : Char} {trail : List Char} (hspeaks : SpeaksOfRegistry before)
    (hsep : isSeparator sep) (hcode : IsCode code) (htail : ∀ c ∈ tail, isSeparator c)
    (htrail : ∀ c ∈ trail, isBlank c) :
    TellsCode (before ++ (sep :: code ++ tail) ++ trail) code := by
  have hblank : ∀ c ∈ sep :: code ++ tail, isBlank c = false := by
    intro c hc
    rcases List.mem_append.1 hc with hc | hc
    · rcases List.mem_cons.1 hc with rfl | hc
      · exact isBlank_of_isSeparator hsep
      · exact Text.isBlank_of_isDigit (hcode.digits c hc)
    · exact isBlank_of_isSeparator (htail c hc)
  have htrim : trim (before ++ (sep :: code ++ tail) ++ trail) =
      Text.trimStart before ++ (sep :: code ++ tail) := by
    have hend : Text.trimEnd trail = [] := by
      rw [Text.trimEnd_eq_rdropWhile, List.rdropWhile_eq_nil_iff]
      exact htrail
    rw [trim, List.append_assoc, Text.trimStart_append, ← List.append_assoc, Text.trimEnd_append,
      hend, List.append_nil]
    · intro c hc
      rw [List.getLast?_append_of_ne_nil _ (by simp)] at hc
      exact hblank c (List.mem_of_mem_getLast? hc)
    · rintro c ⟨⟩
      exact hblank sep (by simp)
  refine ⟨?_, ?_, hcode⟩
  · obtain ⟨word, hword, hin⟩ := hspeaks
    exact ⟨word, hword, hin.trans ((List.prefix_append _ _).trans (List.prefix_append _ _)).isInfix⟩
  · rw [htrim]
    refine ⟨hcode.ne_nil, fun c hc => isSeparator_of_isDigit (hcode.digits c hc),
      Text.trimStart before ++ [sep], tail, by simp, ?_, htail⟩
    intro c hc
    rw [List.getLast?_concat] at hc
    cases hc
    exact hsep

/-! ### Spellings -/

/-- The spellings of the reference system with a code. A version may be any text, and is empty in
`urn:ogc:def:crs:EPSG::3067`. -/
inductive Spells (code : List Char) : List Char → Prop where
  | short {word : List Char} (hword : lower word = "epsg".toList) :
    Spells code (word ++ ':' :: code)
  | urn {word : List Char} (hword : lower word = "epsg".toList) (version : List Char) :
    Spells code ("urn:ogc:def:crs:".toList ++ word ++ ':' :: version ++ ':' :: code)
  | url {word : List Char} (hword : lower word = "epsg".toList) (version : List Char) :
    Spells code ("http://www.opengis.net/def/crs/".toList ++ word ++ '/' :: version ++ '/' :: code)

theorem Spells.exists_cut (h : Spells code name) : ∃ before sep, name = before ++ sep :: code ∧
    SpeaksOfRegistry before ∧ isSeparator sep := by
  cases h with
  | short hword => exact ⟨_, ':', rfl, ⟨_, hword, List.infix_refl _⟩, rfl⟩
  | urn hword version => exact ⟨_, ':', rfl, ⟨_, hword, _, _, rfl⟩, rfl⟩
  | url hword version => exact ⟨_, '/', rfl, ⟨_, hword, _, _, rfl⟩, rfl⟩

theorem Spells.tellsCode {lead trail : List Char} (h : Spells code name) (hcode : IsCode code)
    (htail : ∀ c ∈ tail, isSeparator c) (htrail : ∀ c ∈ trail, isBlank c) :
    TellsCode (lead ++ name ++ tail ++ trail) code := by
  obtain ⟨before, sep, rfl, ⟨word, hword, hin⟩, hsep⟩ := h.exists_cut
  have hspeaks : SpeaksOfRegistry (lead ++ before) :=
    ⟨word, hword, hin.trans (List.suffix_append _ _).isInfix⟩
  simpa using TellsCode.of_cut hspeaks hsep hcode htail htrail

/-- The one spelling tells the code. -/
theorem tellsCode_ofCode (hcode : IsCode code) :
    TellsCode ("EPSG:" ++ String.ofList code).toList code := by
  have hspells : Spells code ("EPSG".toList ++ ':' :: code) := .short (by decide)
  have htells : TellsCode ([] ++ ("EPSG".toList ++ ':' :: code) ++ [] ++ []) code :=
    hspells.tellsCode hcode nofun nofun
  simpa using htells

theorem tellsCode_trim_iff : TellsCode (trim name) code ↔ TellsCode name code := by
  constructor
  · rintro ⟨hspeaks, hlast, hcode⟩
    exact ⟨speaksOfRegistry_trim_iff.1 hspeaks, Text.trim_trim name ▸ hlast, hcode⟩
  · rintro ⟨hspeaks, hlast, hcode⟩
    exact ⟨speaksOfRegistry_trim_iff.2 hspeaks, (Text.trim_trim name).symm ▸ hlast, hcode⟩

theorem ofCode_injective {code code' : List Char}
    (h : "EPSG:" ++ String.ofList code = "EPSG:" ++ String.ofList code') : code = code' := by
  have hchars := congrArg String.toList h
  simpa using hchars

/-- What looks like a spelled code is the code that the name tells. -/
theorem tellsCode_of_normalize {s : String} (hcode : IsCode code)
    (h : normalize s = "EPSG:" ++ String.ofList code) : TellsCode s.toList code := by
  by_cases htells : ∃ other, TellsCode s.toList other
  · obtain ⟨other, hother⟩ := htells
    rw [normalize_of_tellsCode hother] at h
    exact ofCode_injective h ▸ hother
  · rw [normalize_of_not_tellsCode (not_exists.1 htells), Text.trimmed] at h
    have htrim := congrArg String.toList h
    rw [String.toList_ofList] at htrim
    rw [← tellsCode_trim_iff, htrim]
    exact tellsCode_ofCode hcode

theorem normalize_normalize (s : String) : normalize (normalize s) = normalize s := by
  by_cases htells : ∃ code, TellsCode s.toList code
  · obtain ⟨code, hcode⟩ := htells
    rw [normalize_of_tellsCode hcode]
    exact normalize_of_tellsCode (tellsCode_ofCode hcode.isCode)
  · have hnone := not_exists.1 htells
    rw [normalize_of_not_tellsCode hnone, normalize_of_not_tellsCode, Text.trimmed_trimmed]
    intro code
    rw [Text.trimmed, String.toList_ofList, tellsCode_trim_iff]
    exact hnone code

/-- What makes names of reference systems comparable. -/
structure IsCanonical (normalize : String → String) : Prop where
  /-- A name that was normalized stays as it is. -/
  idempotent : ∀ s, normalize (normalize s) = normalize s
  /-- All spellings of a code are written in one way. White space may stand around them, and inside
  of it separators behind them. -/
  spelled : ∀ {code name lead tail trail : List Char}, IsCode code → Spells code name →
    (∀ c ∈ lead, isBlank c) → (∀ c ∈ tail, isSeparator c) → (∀ c ∈ trail, isBlank c) →
    normalize (String.ofList (lead ++ name ++ tail ++ trail)) = "EPSG:" ++ String.ofList code
  /-- A name comes out as a code just if it speaks of the registry and the code is its last part. -/
  code_iff : ∀ {s : String} {code : List Char}, IsCode code →
    (normalize s = "EPSG:" ++ String.ofList code ↔ TellsCode s.toList code)
  /-- Names that tell different codes stay different. -/
  distinct : ∀ {s t : String} {code code' : List Char}, TellsCode s.toList code →
    TellsCode t.toList code' → normalize s = normalize t → code = code'
  /-- A name that tells no code is trimmed, and otherwise left alone. -/
  others : ∀ {s : String}, (∀ code, ¬ TellsCode s.toList code) → normalize s = Text.trimmed s

/-- Names of reference systems are comparable when they have been normalized. -/
theorem isCanonical_normalize : IsCanonical normalize where
  idempotent := normalize_normalize
  spelled := by
    intro code name lead tail trail hcode hspells _ htail htrail
    apply normalize_of_tellsCode
    rw [String.toList_ofList]
    exact hspells.tellsCode hcode htail htrail
  code_iff := fun hcode => ⟨tellsCode_of_normalize hcode, normalize_of_tellsCode⟩
  distinct := by
    intro s t code code' hs ht h
    rw [normalize_of_tellsCode hs, normalize_of_tellsCode ht] at h
    exact ofCode_injective h
  others := normalize_of_not_tellsCode

/-- White space before a separator belongs to the last part, which is then no number. -/
example : normalize " urn:ogc:def:crs:Epsg:6.18:3:3857// " = "EPSG:3857" ∧
    normalize " EPSG:3857 / " = "EPSG:3857 /" := by
  decide +kernel

end MapServices.Crs
