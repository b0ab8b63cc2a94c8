import MapServices.Proofs.Lists
import MapServices.Proofs.Text.Ascii
import MapServices.Proofs.Url.Punycode
import MapServices.Url.Domain

/-!
# Written domain names

* `label?_written`: the written form of a label stands for that label.
* `toAscii?_of_toAscii?`: a domain name in its written form stays as it is, and its characters are
  ASCII, in lower case and allowed in a name.
* `toAscii?_of_ascii`: a name in ASCII without labels in Punycode is in its written form.
-/

namespace MapServices.Url.Domain

open Unicode

/-- The characters of a label in its written form. -/
structure IsLabelChar (c : Char) : Prop where
  ascii : c.toNat < 128
  lower : c.toLower = c
  noPoint : c ≠ '.'

instance : DecidablePred IsLabelChar := fun c =>
  decidable_of_iff (c.toNat < 128 ∧ c.toLower = c ∧ c ≠ '.')
    ⟨fun ⟨hascii, hlower, hpoint⟩ => ⟨hascii, hlower, hpoint⟩,
      fun h => ⟨h.ascii, h.lower, h.noPoint⟩⟩

theorem isLabelChar_of_mem_asciiMark {c : Char} (hc : c ∈ asciiMark) : IsLabelChar c := by
  have hall : asciiMark.all fun c => IsLabelChar c := by decide
  exact of_decide_eq_true (List.all_eq_true.1 hall c hc)

theorem isLabelChar_of_isDigit {c : Char} (hc : Punycode.IsDigit c) : IsLabelChar c :=
  of_decide_eq_true (hc.of_all (p := fun c => IsLabelChar c) (by decide))

theorem preferred?_eq_self_iff {c : Char} (hascii : c.toNat < 128) :
    preferred? c = some [c] ↔ c.toLower = c := by
  rw [preferred?, if_pos hascii, Option.some_inj, List.singleton_inj]

theorem compose_of_ascii {s : List Char} (hascii : ∀ c ∈ s, c.toNat < 128) : compose s = s := by
  rw [compose, if_pos (List.all_eq_true.2 fun c hc => decide_eq_true (hascii c hc))]

/-! ### Labels -/

theorem afterStart?_append (start s : List Char) :
    Text.afterStart? start (start ++ s) = some s := by
  have hstart : start.isPrefixOf (start ++ s) := List.isPrefixOf_iff_prefix.2 ⟨s, rfl⟩
  rw [Text.afterStart?, if_pos hstart, List.drop_left]

theorem afterStart?_eq_none {start s : List Char} (h : ¬ start.isPrefixOf s) :
    Text.afterStart? start s = none := by
  rw [Text.afterStart?, if_neg h]

theorem label?_eq_some_iff {part label : List Char} :
    label? part = some label ↔ meant? part = some label ∧ isValid label := by
  rw [label?, Option.filter_eq_some_iff]

/-- What a name may hold, as far as it bears on the written form. -/
theorem isValid_spec {label : List Char} (h : isValid label) :
    ¬ asciiMark.isPrefixOf label ∧ ∀ c ∈ label, c ≠ '.' ∧ preferred? c = some [c] := by
  simp only [isValid, Bool.and_eq_true, Bool.not_eq_true', List.all_eq_true, decide_eq_true_eq]
    at h
  obtain ⟨⟨⟨⟨hmark, hchars⟩, -⟩, -⟩, -⟩ := h
  exact ⟨by simp [hmark], hchars⟩

/-- A label that a name may hold is written in small ASCII. -/
theorem isLabelChar_of_mem_written {label : List Char} (h : isValid label) :
    ∀ c ∈ written label, IsLabelChar c := by
  obtain ⟨-, hlabel⟩ := isValid_spec h
  have hown : ∀ c ∈ label, c.toNat < 128 → IsLabelChar c := by
    intro c hc hascii
    obtain ⟨hpoint, hpreferred⟩ := hlabel c hc
    exact ⟨hascii, (preferred?_eq_self_iff hascii).1 hpreferred, hpoint⟩
  intro c hc
  unfold written at hc
  split at hc
  · rename_i hascii
    exact hown c hc (by simpa using List.all_eq_true.1 hascii c hc)
  · obtain ⟨digits, hencode, hdigits, -⟩ := Punycode.encode_eq label
    rw [hencode] at hc
    simp only [List.mem_append, List.mem_filter, decide_eq_true_eq] at hc
    rcases hc with hc | (⟨hc, hascii⟩ | hc) | hc
    · exact isLabelChar_of_mem_asciiMark hc
    · exact hown c hc hascii
    · split at hc
      · cases hc
      · rw [List.mem_singleton.1 hc]
        decide
    · exact isLabelChar_of_isDigit (hdigits c hc)

/-- The written form of a label stands for that label. -/
theorem label?_written {label : List Char} (h : isValid label) :
    label? (written label) = some label := by
  refine label?_eq_some_iff.2 ⟨?_, h⟩
  unfold written
  split
  · rw [meant?, afterStart?_eq_none (isValid_spec h).1]
  · rename_i hforeign
    have hany : label.any (128 ≤ ·.toNat) := by
      by_contra hnone
      refine hforeign (List.all_eq_true.2 fun c hc => decide_eq_true ?_)
      by_contra hle
      exact hnone (List.any_eq_true.2 ⟨c, hc, decide_eq_true (by omega)⟩)
    rw [meant?, afterStart?_append]
    simp only [Option.bind_eq_bind, Punycode.decode?_encode, Option.bind_some, hany, decide_true,
      Bool.and_self, if_true]

/-! ### Names -/

/-- The characters of a domain name in its written form. -/
structure IsWrittenChar (c : Char) : Prop where
  ascii : c.toNat < 128
  lower : c.toLower = c
  allowed : isForbidden c = false

theorem toAscii?_eq_some_iff {name domain : List Char} :
    toAscii? name = some domain ↔ ∃ forms labels, name.mapM preferred? = some forms ∧
      ((compose forms.flatten).splitOn '.').mapM label? = some labels ∧ fitTogether labels ∧
      domain = ['.'].intercalate (labels.map written) ∧ domain.any isForbidden = false := by
  simp only [toAscii?, Option.bind_eq_bind, Option.bind_eq_some_iff]
  constructor
  · rintro ⟨forms, hforms, labels, hlabels, h⟩
    split at h
    · rename_i hfit
      rw [Bool.and_eq_true] at hfit
      cases h
      exact ⟨forms, labels, hforms, hlabels, hfit.1, rfl, by simpa using hfit.2⟩
    · cases h
  · rintro ⟨forms, labels, hforms, hlabels, hfit, rfl, hallowed⟩
    exact ⟨forms, hforms, labels, hlabels, by simp [hfit, hallowed]⟩

/-- The written form of labels that fit together is in its written form. -/
theorem toAscii?_intercalate {labels : List (List Char)} (hne : labels ≠ [])
    (hvalid : ∀ label ∈ labels, isValid label) (hfit : fitTogether labels)
    (hallowed : (['.'].intercalate (labels.map written)).any isForbidden = false) :
    (∀ c ∈ ['.'].intercalate (labels.map written), IsWrittenChar c) ∧
      toAscii? (['.'].intercalate (labels.map written)) =
        some (['.'].intercalate (labels.map written)) := by
  have hlabelChars : ∀ part ∈ labels.map written, ∀ c ∈ part, IsLabelChar c := by
    intro part hpart
    obtain ⟨label, hlabel, rfl⟩ := List.mem_map.1 hpart
    exact isLabelChar_of_mem_written (hvalid label hlabel)
  generalize hdomain : ['.'].intercalate (labels.map written) = domain at hallowed ⊢
  have hchars : ∀ c ∈ domain, IsWrittenChar c := by
    intro c hc
    have hc' : isForbidden c = false := by
      simpa using List.any_eq_false.1 hallowed c hc
    rw [← hdomain] at hc
    rcases Lists.mem_intercalate hc with rfl | ⟨part, hpart, hc⟩
    · exact ⟨by decide, by decide, hc'⟩
    · obtain ⟨hascii, hlower, -⟩ := hlabelChars part hpart c hc
      exact ⟨hascii, hlower, hc'⟩
  have hsplit : domain.splitOn '.' = labels.map written := by
    rw [← hdomain]
    refine List.splitOn_intercalate '.' (fun part hpart hpoint => ?_) (by simpa using hne)
    exact (hlabelChars part hpart '.' hpoint).noPoint rfl
  refine ⟨hchars, toAscii?_eq_some_iff.2
    ⟨domain.map ([·]), labels, ?_, ?_, hfit, hdomain.symm, hallowed⟩⟩
  · apply Lists.mapM_eq_some_map
    intro c hc
    exact (preferred?_eq_self_iff (hchars c hc).ascii).2 (hchars c hc).lower
  · have hflatten : (domain.map ([·])).flatten = domain := by
      rw [← List.flatMap_def]
      exact List.flatMap_singleton' domain
    rw [hflatten, compose_of_ascii fun c hc => (hchars c hc).ascii, hsplit, List.mapM_map]
    apply (Lists.mapM_eq_some_map fun label hlabel => label?_written (hvalid label hlabel)).trans
    rw [List.map_id']

/-- The written form of a name is in its written form. -/
theorem toAscii?_of_toAscii? {name domain : List Char} (h : toAscii? name = some domain) :
    (∀ c ∈ domain, IsWrittenChar c) ∧ toAscii? domain = some domain := by
  obtain ⟨forms, labels, -, hlabels, hfit, rfl, hallowed⟩ := toAscii?_eq_some_iff.1 h
  have hne : labels ≠ [] := by
    rintro rfl
    have hnil := List.forall₂_nil_right_iff.1 (Lists.mapM_eq_some_iff.1 hlabels)
    exact List.splitOn_ne_nil '.' _ hnil
  refine toAscii?_intercalate hne (fun label hlabel => ?_) hfit hallowed
  obtain ⟨part, -, hpart⟩ := Lists.exists_of_mapM hlabels hlabel
  exact (label?_eq_some_iff.1 hpart).2

/-! ### Names in ASCII -/

theorem allMayStand_of_ascii {label : List Char} (hascii : ∀ c ∈ label, c.toNat < 128)
    (before : List Char) : allMayStand before label := by
  induction label generalizing before with
  | nil => rfl
  | cons c label ih =>
    have hc := hascii c List.mem_cons_self
    have hparts : c ≠ '\u200C' := by
      rintro rfl
      exact absurd hc (by decide)
    have hjoins : c ≠ '\u200D' := by
      rintro rfl
      exact absurd hc (by decide)
    rw [allMayStand, ih fun d hd => hascii d (List.mem_cons_of_mem c hd), Bool.and_true, mayStand,
      if_neg hparts, if_neg hjoins]

theorem isValid_of_ascii {label : List Char} (hchars : ∀ c ∈ label, IsLabelChar c)
    (hmark : ¬ asciiMark.isPrefixOf label) : isValid label := by
  have hascii : ∀ c ∈ label, c.toNat < 128 := fun c hc => (hchars c hc).ascii
  have hall : label.all fun c => c ≠ '.' && preferred? c = some [c] := by
    refine List.all_eq_true.2 fun c hc => ?_
    obtain ⟨hc', hlower, hpoint⟩ := hchars c hc
    simp [hpoint, (preferred?_eq_self_iff hc').2 hlower]
  have hhead : label.head?.any isMark = false := by
    cases label with
    | nil => rfl
    | cons c label =>
      have hc := hascii c List.mem_cons_self
      simp [isMark, hc]
  simp only [isValid, hmark, hall, compose_of_ascii hascii, hhead, allMayStand_of_ascii hascii,
    decide_true, Bool.not_false, Bool.and_self]

theorem not_isRightToLeft {c : Char} (hascii : c.toNat < 128) : isRightToLeft c = false := by
  rw [isRightToLeft, direction, if_pos hascii]
  split <;> rename_i h
  · split at h
    · cases h
    · split at h <;> cases h
  · split at h
    · cases h
    · split at h <;> cases h
  · rfl

/-- A name in small ASCII without labels in Punycode is in its written form. -/
theorem toAscii?_of_ascii {labels : List (List Char)} (hne : labels ≠ [])
    (hchars : ∀ label ∈ labels, ∀ c ∈ label, IsLabelChar c)
    (hmark : ∀ label ∈ labels, ¬ asciiMark.isPrefixOf label)
    (hallowed : (['.'].intercalate labels).any isForbidden = false) :
    toAscii? (['.'].intercalate labels) = some (['.'].intercalate labels) := by
  have hwritten : labels.map written = labels := by
    refine List.map_congr_left (g := id) (fun label hlabel => ?_) |>.trans (List.map_id labels)
    refine if_pos (List.all_eq_true.2 fun c hc => decide_eq_true ?_)
    exact (hchars label hlabel c hc).ascii
  have hfit : fitTogether labels := by
    have hnone : labels.any (·.any isRightToLeft) = false := by
      refine List.any_eq_false.2 fun label hlabel => Bool.not_eq_true _ ▸ ?_
      refine List.any_eq_false.2 fun c hc => ?_
      simp [not_isRightToLeft (hchars label hlabel c hc).ascii]
    rw [fitTogether, hnone]
    rfl
  have hself := (toAscii?_intercalate hne
    (fun label hlabel => isValid_of_ascii (hchars label hlabel) (hmark label hlabel)) hfit
    (by rwa [hwritten])).2
  rwa [hwritten] at hself

end MapServices.Url.Domain
