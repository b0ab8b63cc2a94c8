import MapServices.Proofs.Key
import MapServices.Proofs.Url.Written
import MapServices.Request

/-!
# Simplifying an address twice

* `simplifyChars_print_ofUrl`: the one spelling of an address of a host stays as it is.
* `IsSettled`: for which texts, addresses of hosts or not, simplifying once is enough.
* `saved_where_looked_up_iff`: exactly for these is a key found again through its document.
-/

namespace MapServices.Endpoint

/-! ### Queries -/

theorem simplifyQuery?_spec {query simplified : List Char}
    (h : simplifyQuery? query = some simplified) :
    simplifyQuery? simplified = some simplified ∧ ∀ c ∈ simplified, c = '&' ∨ c ∈ query := by
  unfold simplifyQuery? at h
  split at h
  · cases h
  · rename_i hne
    cases h
    have hmem : ∀ segment ∈ meaningfulSegments query, (∀ c ∈ segment, c ∈ query ∧ c ≠ '&') ∧
        isMeaningful segment := by
      intro segment hsegment
      obtain ⟨hsegment, hmeaning⟩ := List.mem_filter.1 hsegment
      exact ⟨Lists.mem_of_mem_splitOn hsegment, hmeaning⟩
    have hsplit : (['&'].intercalate (meaningfulSegments query)).splitOn '&' =
        meaningfulSegments query := by
      refine List.splitOn_intercalate '&' (fun segment hsegment hmark => ?_) hne
      exact ((hmem segment hsegment).1 '&' hmark).2 rfl
    have hagain : meaningfulSegments (['&'].intercalate (meaningfulSegments query)) =
        meaningfulSegments query := by
      rw [meaningfulSegments, hsplit]
      exact List.filter_eq_self.2 fun segment hsegment => (hmem segment hsegment).2
    constructor
    · rw [simplifyQuery?, hagain]
      split
      · contradiction
      · rfl
    · intro c hc
      rcases Lists.mem_intercalate hc with rfl | ⟨segment, hsegment, hc⟩
      · exact Or.inl rfl
      · exact Or.inr ((hmem segment hsegment).1 c hc).1

theorem ofUrl_ofUrl (u : Url) : ofUrl (ofUrl u) = ofUrl u := by
  have hquery : (u.query?.bind simplifyQuery?).bind simplifyQuery? =
      u.query?.bind simplifyQuery? := by
    cases h : u.query?.bind simplifyQuery? with
    | none => rfl
    | some simplified =>
      obtain ⟨query, -, hquery⟩ := Option.bind_eq_some_iff.1 h
      exact (simplifyQuery?_spec hquery).1
  simp only [ofUrl, hquery]

/-! ### Addresses of hosts -/

theorem hostUrl?_eq_some_iff {s : List Char} {u : Url} :
    hostUrl? s = some u ↔ Url.readChars s = .ok u ∧ u.hasHost := by
  unfold hostUrl?
  cases h : Url.readChars s with
  | error e => simp
  | ok u' =>
    by_cases hhost : u'.hasHost
    · simp only [hhost, if_true, Option.some.injEq, Except.ok.injEq]
      constructor
      · rintro rfl
        exact ⟨rfl, hhost⟩
      · exact And.left
    · simp only [hhost, if_false, Bool.false_eq_true, reduceCtorEq, Except.ok.injEq, false_iff]
      rintro ⟨rfl, hhost'⟩
      exact hhost hhost'

/-- The one spelling of an address of a host is a written address. -/
theorem isWritten_ofUrl {s : List Char} {u : Url} (h : hostUrl? s = some u) :
    (ofUrl u).IsWritten := by
  obtain ⟨hread, hhost⟩ := hostUrl?_eq_some_iff.1 h
  have hwritten := Url.isWritten_of_readChars hread hhost
  apply hwritten.replaceQuery
  intro simplified hsimplified c hc
  obtain ⟨query, hquery, hspec⟩ := Option.bind_eq_some_iff.1 hsimplified
  rcases (simplifyQuery?_spec hspec).2 c hc with rfl | hc
  · cases (Url.SchemeType.ofScheme u.scheme).isSpecial with
    | false => decide
    | true => decide
  · exact hwritten.query query hquery c hc

theorem trim_eq_self_of_isVisible {s : List Char} (h : ∀ c ∈ s, Url.IsVisible c) :
    Text.trim s = s := by
  have hblank : ∀ c ∈ s, Text.isBlank c = false := by
    intro c hc
    have hascii : c.toNat < 128 := Nat.lt_trans (h c hc).2 (by decide)
    exact Text.forall_ascii (p := fun c => Url.IsVisible c → Text.isBlank c = false)
      (by decide +kernel) hascii (h c hc)
  refine Text.trim_eq_self_iff.2 ⟨fun c hc => hblank c ?_, fun c hc => hblank c ?_⟩
  · exact List.mem_of_mem_head? hc
  · exact List.mem_of_mem_getLast? hc

theorem trim_print_ofUrl {s : List Char} {u : Url} (h : hostUrl? s = some u) :
    Text.trim (ofUrl u).print = (ofUrl u).print :=
  trim_eq_self_of_isVisible (Url.isVisible_of_mem_print (isWritten_ofUrl h))

theorem hostUrl?_print_ofUrl {s : List Char} {u : Url} (h : hostUrl? s = some u) :
    hostUrl? (ofUrl u).print = some (ofUrl u) :=
  hostUrl?_eq_some_iff.2
    ⟨Url.readChars_print (isWritten_ofUrl h), (hostUrl?_eq_some_iff.1 h).2⟩

theorem simplifyChars_of_hostUrl? {raw : List Char} {u : Url}
    (h : hostUrl? (Text.trim raw) = some u) : simplifyChars raw = (ofUrl u).print := by
  simp only [simplifyChars, h]

theorem simplifyChars_print_ofUrl {s : List Char} {u : Url} (h : hostUrl? s = some u) :
    simplifyChars (ofUrl u).print = (ofUrl u).print := by
  have hagain : hostUrl? (Text.trim (ofUrl u).print) = some (ofUrl u) := by
    rw [trim_print_ofUrl h]
    exact hostUrl?_print_ofUrl h
  rw [simplifyChars_of_hostUrl? hagain, ofUrl_ofUrl]

/-! ### Other texts -/

/-- The text ends in no white space, and if it is an address of a host, it is so in the one
spelling. -/
structure IsSettledText (t : List Char) : Prop where
  trimmed : Text.trim t = t
  spelled : ∀ u ∈ hostUrl? t, (ofUrl u).print = t

/-- The text is an address of a host, or taking its separators away leaves one that is settled. -/
def IsSettled (raw : String) : Prop :=
  (hostUrl? (Text.trim raw.toList)).isSome ∨
    IsSettledText (stripSeparators (Text.trim raw.toList))

theorem stripSeparators_stripSeparators (s : List Char) :
    stripSeparators (stripSeparators s) = stripSeparators s :=
  List.rdropWhile_idempotent (fun c => c = '?' || c = '&') s

theorem trim_eq_self_of_stripSeparators {t : List Char} (h : stripSeparators (Text.trim t) = t) :
    Text.trim t = t := by
  have hstrip : stripSeparators (Text.trim t) <+: Text.trim t :=
    List.rdropWhile_prefix (fun c => c = '?' || c = '&') (Text.trim t)
  have hend : (Text.trim t).Sublist (Text.trimStart t) :=
    (Text.prefix_trimEnd (Text.trimStart t)).sublist
  have hstart : (Text.trimStart t).Sublist t := List.dropWhile_sublist Text.isBlank
  have hle : t.length ≤ (Text.trim t).length := by
    rw [h] at hstrip
    exact hstrip.length_le
  exact (hend.trans hstart).eq_of_length_le hle

theorem simplifyChars_eq_self_iff {t : List Char} (hstrip : stripSeparators t = t) :
    simplifyChars t = t ↔ IsSettledText t := by
  constructor
  · intro h
    cases hhost : hostUrl? (Text.trim t) with
    | some u =>
      rw [simplifyChars_of_hostUrl? hhost] at h
      have htrim : Text.trim t = t := by
        rw [← h]
        exact trim_print_ofUrl hhost
      refine ⟨htrim, fun v hv => ?_⟩
      rw [htrim, hv] at hhost
      cases hhost
      exact h
    | none =>
      simp only [simplifyChars, hhost] at h
      have htrim := trim_eq_self_of_stripSeparators h
      refine ⟨htrim, fun v hv => ?_⟩
      rw [htrim, hv] at hhost
      cases hhost
  · rintro ⟨htrim, hspelled⟩
    cases hhost : hostUrl? (Text.trim t) with
    | some u =>
      rw [simplifyChars_of_hostUrl? hhost]
      rw [htrim] at hhost
      exact hspelled u hhost
    | none =>
      rw [htrim] at hhost
      simp only [simplifyChars, htrim, hhost, hstrip]

theorem simplify_simplify_iff (raw : String) :
    simplify (simplify raw) = simplify raw ↔ IsSettled raw := by
  have hchars : simplify (simplify raw) = simplify raw ↔
      simplifyChars (simplifyChars raw.toList) = simplifyChars raw.toList := by
    simp only [simplify, String.toList_ofList, String.ofList_inj]
  rw [hchars]
  cases hhost : hostUrl? (Text.trim raw.toList) with
  | some u =>
    rw [simplifyChars_of_hostUrl? hhost]
    refine iff_of_true (simplifyChars_print_ofUrl hhost) (Or.inl ?_)
    rw [hhost]
    rfl
  | none =>
    have hraw : simplifyChars raw.toList = stripSeparators (Text.trim raw.toList) := by
      simp only [simplifyChars, hhost]
    rw [hraw, simplifyChars_eq_self_iff (stripSeparators_stripSeparators _), IsSettled, hhost]
    simp

-- White space before a separator is left at the end, to be trimmed next time.
example : simplify "/geoserver/wms ?" = "/geoserver/wms " ∧
    simplify "/geoserver/wms " = "/geoserver/wms" := by decide

-- A separator that spoils the port hides the address of a host.
example : simplify "http://host:80&" = "http://host:80" ∧
    simplify "http://host:80" = "http://host/" := by decide +kernel

/-! ### Keys -/

theorem isStable_ofParts_iff (raw : String) (serviceType : ServiceType) (version : Option String) :
    (ServiceKey.ofParts raw serviceType version).IsStable ↔ IsSettled raw :=
  simplify_simplify_iff raw

/-- A key is found again through its document and through a request if and only if simplifying the
address of the service once is enough. -/
theorem saved_where_looked_up_iff (raw : String) (serviceType : ServiceType)
    (version : Option String) (data : String) (now : Instant) (credentials : Option Credentials) :
    (simplify (simplify raw) = simplify raw ↔ IsSettled raw) ∧
      ((CapabilitiesDocument.ofKey (.ofParts raw serviceType version) data now).key =
        .ofParts raw serviceType version ↔ IsSettled raw) ∧
      ((FetchRequest.ofKey (.ofParts raw serviceType version) credentials).key =
        .ofParts raw serviceType version ↔ IsSettled raw) := by
  have hversion := ServiceKey.normalizeVersion_ofParts raw serviceType version
  refine ⟨simplify_simplify_iff raw, ?_, ?_⟩
  · rw [CapabilitiesDocument.key_ofKey_iff hversion]
    exact isStable_ofParts_iff raw serviceType version
  · rw [FetchRequest.key, FetchRequest.ofKey, ServiceKey.ofParts_eq_iff hversion]
    exact isStable_ofParts_iff raw serviceType version

end MapServices.Endpoint
