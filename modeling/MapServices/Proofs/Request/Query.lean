import MapServices.Proofs.Endpoint
import MapServices.Proofs.Request.Parameters

/-!
# What a request asks for

A parameter is given unless the address of the endpoint mentions it, and a mention may stand
anywhere: in the host, the path, a value, or at the end of another name. So a request lacks a
parameter exactly if the endpoint mentions it without having it.

* `HasNamed`: one of the parts of a query has the name.
* `readChars_capabilitiesUrl`: the address of a request is read as that of the endpoint with another
  query.
* `hasNamed_capabilitiesUrl_iff`: which parameters the address of a request has.
* `not_hasNamed_of_other_name`: an endpoint with a parameter whose name ends in `service`.
-/

namespace MapServices.Request

open Url

/-! ## Names -/

/-- The name of a part of a query: what stands before its first equals sign. -/
def nameOf (segment : List Char) : List Char :=
  ((Text.cutAt? '=' segment).map Prod.fst).getD segment

/-- One of the parts has the name, whatever the letter case. -/
def HasNamed (segments : List (List Char)) (name : String) : Prop :=
  ∃ segment ∈ segments, Text.lower (nameOf segment) = Text.lower name.toList

instance (segments : List (List Char)) (name : String) : Decidable (HasNamed segments name) :=
  inferInstanceAs (Decidable (∃ segment ∈ segments, _))

variable (serviceType : ServiceType) (version : Option String)

theorem nameOf_formPair {parameter : String × String}
    (h : parameter ∈ wantedParameters serviceType version) :
    nameOf (formPair parameter) = parameter.1.toList := by
  rw [nameOf, cutAt?_formPair, Option.map_some, Option.getD_some,
    formEncode_name serviceType version h]

theorem mem_givenParameters {url : String} {parameter : String × String} :
    parameter ∈ givenParameters serviceType version url ↔
      parameter ∈ wantedParameters serviceType version ∧
        Lacks serviceType (Endpoint.simplify url).toList parameter := by
  rw [givenParameters, List.mem_filter, decide_eq_true_iff]

/-- A request has the parameters of the endpoint and those that it gives. -/
theorem hasNamed_iff_given (url name : String) :
    HasNamed (segmentsOf (capabilitiesUrl url serviceType version).toList) name ↔
      HasNamed (segmentsOf (Endpoint.simplify url).toList) name ∨
        ∃ parameter ∈ givenParameters serviceType version url,
          Text.lower parameter.1.toList = Text.lower name.toList := by
  have hsegments := (segmentsOf_appendParameters (Endpoint.simplify url)
    (givenParameters serviceType version url)).2
  simp only [HasNamed, capabilitiesUrl_eq, hsegments, List.mem_append, List.mem_map, or_and_right,
    exists_or, exists_exists_and_eq_and]
  refine or_congr_right (exists_congr fun parameter => and_congr_right fun hmem => ?_)
  rw [nameOf_formPair serviceType version (mem_givenParameters serviceType version |>.1 hmem).1]

theorem mem_wantedParameters {parameter : String × String} :
    parameter ∈ wantedParameters serviceType version ↔
      parameter = ("service", serviceType.name) ∨ parameter = ("request", "GetCapabilities") ∨
        ∃ v, normalizeVersion version = some v ∧ parameter = (serviceType.versionParameter, v) := by
  simp only [wantedParameters, List.mem_append, List.mem_singleton, List.mem_map, Option.mem_toList,
    or_assoc, eq_comm (b := parameter)]

theorem lower_name_injective : ∀ name ∈ ["service", "request", serviceType.versionParameter],
    ∀ other ∈ ["service", "request", serviceType.versionParameter],
      Text.lower name.toList = Text.lower other.toList → name = other := by
  cases serviceType <;> decide +kernel

theorem lower_ne : ∀ name ∈ ["service", "request"],
    Text.lower name.toList ≠ Text.lower "version".toList ∧
      Text.lower name.toList ≠ Text.lower serviceType.versionParameter.toList := by
  cases serviceType <;> decide +kernel

/-- The service and the request are given if the endpoint does not mention them. -/
theorem given_fixed_iff {name : String} (h : name ∈ ["service", "request"]) (url : String) :
    (∃ parameter ∈ givenParameters serviceType version url,
        Text.lower parameter.1.toList = Text.lower name.toList) ↔
      ¬ Mentions (Endpoint.simplify url).toList name := by
  have hname : name ≠ serviceType.versionParameter := by
    obtain ⟨hservice, hrequest⟩ := ne_versionParameter serviceType
    rcases List.mem_pair.1 h with rfl | rfl <;> assumption
  have hall : name ∈ ["service", "request", serviceType.versionParameter] := by
    rcases List.mem_pair.1 h with rfl | rfl <;> simp
  have hnames : ∀ parameter ∈ wantedParameters serviceType version,
      parameter.1 ∈ ["service", "request", serviceType.versionParameter] := by
    intro parameter hmem
    rcases (mem_wantedParameters serviceType version).1 hmem with rfl | rfl | ⟨v, -, rfl⟩ <;> simp
  constructor
  · rintro ⟨parameter, hmem, hlower⟩
    obtain ⟨hwanted, hlacks, -⟩ := (mem_givenParameters serviceType version).1 hmem
    rwa [lower_name_injective serviceType _ (hnames parameter hwanted) name hall hlower] at hlacks
  · intro hmention
    obtain ⟨value, hwanted⟩ : ∃ value, (name, value) ∈ wantedParameters serviceType version := by
      simp only [mem_wantedParameters]
      rcases List.mem_pair.1 h with rfl | rfl <;> simp
    exact ⟨(name, value), (mem_givenParameters serviceType version).2
      ⟨hwanted, hmention, fun h => absurd h hname⟩, rfl⟩

/-- A version that is asked for is given if the endpoint mentions neither of the parameters that
would ask for one. -/
theorem given_version_iff (h : (normalizeVersion version).isSome) (url : String) :
    (∃ name ∈ ["version", serviceType.versionParameter],
        ∃ parameter ∈ givenParameters serviceType version url,
          Text.lower parameter.1.toList = Text.lower name.toList) ↔
      ¬ ∃ name ∈ ["version", serviceType.versionParameter],
        Mentions (Endpoint.simplify url).toList name := by
  obtain ⟨v, hv⟩ := Option.isSome_iff_exists.1 h
  simp only [List.exists_mem_cons_iff, List.not_mem_nil, false_and, exists_false, or_false, not_or]
  constructor
  · intro hgiven
    obtain ⟨parameter, hmem, hlower⟩ : ∃ parameter ∈ givenParameters serviceType version url,
        Text.lower parameter.1.toList = Text.lower "version".toList ∨
          Text.lower parameter.1.toList = Text.lower serviceType.versionParameter.toList := by
      rcases hgiven with ⟨parameter, hmem, hlower⟩ | ⟨parameter, hmem, hlower⟩
      · exact ⟨parameter, hmem, .inl hlower⟩
      · exact ⟨parameter, hmem, .inr hlower⟩
    obtain ⟨hwanted, hlacks, hversion⟩ := (mem_givenParameters serviceType version).1 hmem
    -- of the names that are given only that of the version is one of the two
    rcases (mem_wantedParameters serviceType version).1 hwanted with rfl | rfl | ⟨v', -, rfl⟩
    · exact absurd hlower (not_or.2 (lower_ne serviceType "service" (by simp)))
    · exact absurd hlower (not_or.2 (lower_ne serviceType "request" (by simp)))
    · exact ⟨hversion rfl, hlacks⟩
  · rintro ⟨hversion, hparameter⟩
    refine .inr ⟨(serviceType.versionParameter, v), ?_, rfl⟩
    refine (mem_givenParameters serviceType version).2 ⟨?_, hparameter, fun _ => hversion⟩
    exact (mem_wantedParameters serviceType version).2 (.inr (.inr ⟨v, hv, rfl⟩))

/-! ## The address as it is read -/

variable {serviceType} {version}

theorem not_mem_front {u : Url} (h : u.IsWritten) {special : Bool} {host : Host}
    {parts : List (List Char)} (hplaced : IsPlaced u special host parts) :
    '?' ∉ u.scheme ++ ':' :: printPlace u host parts := by
  intro hmem
  rcases List.mem_append.1 hmem with hmem | hmem
  · exact absurd (h.scheme.chars '?' hmem).1 (by decide)
  · rcases List.mem_cons.1 hmem with hmem | hmem
    · exact absurd hmem (by decide)
    · exact (isVisible_of_mem_printPlace hplaced '?' hmem).2.1 rfl

theorem segmentsOf_print {u : Url} (h : u.IsWritten) :
    segmentsOf u.print = (u.query?.map (·.splitOn '&')).getD [] := by
  obtain ⟨host, parts, hplaced, -⟩ := h.place
  have hfront := not_mem_front h hplaced
  rw [print_eq h hplaced.host_eq hplaced.path_eq, ← List.cons_append, ← List.append_assoc]
  cases u.query? with
  | none => rw [queryText, List.append_nil, segmentsOf, Text.cutAt?_eq_none hfront]; rfl
  | some query => rw [queryText, segmentsOf, Text.cutAt?_append hfront]; rfl

theorem isQueryEncoded_ampersand (special : Bool) : isQueryEncoded special '&' = false := by
  cases special <;> decide

/-- Parameters in a form stand for themselves in a query. -/
theorem isQueryEncoded_formPairs (special : Bool) (parameters : List (String × String)) :
    ∀ c ∈ formPairs parameters, isQueryEncoded special c = false := by
  have hpair : ∀ pair : String × String, ∀ c ∈ formPair pair, isQueryEncoded special c = false :=
    fun pair => forall_mem_formPair (p := (isQueryEncoded special · = false))
      (by cases special <;> decide +kernel) (by cases special <;> decide)
  intro c hc
  rcases Lists.mem_intercalate hc with rfl | ⟨part, hpart, hc⟩
  · exact isQueryEncoded_ampersand special
  · obtain ⟨pair, -, rfl⟩ := List.mem_map.1 hpart
    exact hpair pair c hc

/-- An address with more parameters is another written address, which differs in its query. -/
theorem exists_print_appendParameters {u : Url} (h : u.IsWritten)
    (parameters : List (String × String)) :
    ∃ query?, { u with query? := query? }.IsWritten ∧
      (appendParameters (String.ofList u.print) parameters).toList =
        { u with query? := query? }.print := by
  obtain ⟨host, parts, hplaced, -⟩ := h.place
  have hfront := not_mem_front h hplaced
  have hprint := print_eq h hplaced.host_eq hplaced.path_eq
  have hreplaced : ∀ query, (∀ c ∈ query,
      isQueryEncoded (SchemeType.ofScheme u.scheme).isSpecial c = false) →
        { u with query? := some query }.IsWritten ∧ { u with query? := some query }.print =
          u.scheme ++ ':' :: (printPlace u host parts ++ '?' :: query) := by
    intro query hquery
    have hwritten : { u with query? := some query }.IsWritten := h.replaceQuery fun _ heq c hc =>
      hquery c (Option.some.inj heq ▸ hc)
    exact ⟨hwritten, print_eq hwritten hplaced.host_eq hplaced.path_eq⟩
  unfold appendParameters
  split
  · exact ⟨u.query?, h, String.toList_ofList⟩
  -- the parameters are the query, or stand behind the one that is there
  cases hquery : u.query? with
  | none =>
    rw [hquery, queryText, List.append_nil] at hprint
    obtain ⟨hwritten, hprint'⟩ := hreplaced _ (isQueryEncoded_formPairs _ parameters)
    refine ⟨_, hwritten, ?_⟩
    simp only [hprint', hprint, String.toList_append, String.toList_ofList, List.contains_iff_mem,
      hfront, if_false, List.append_assoc, List.cons_append]
  | some query =>
    rw [hquery, queryText] at hprint
    obtain ⟨hwritten, hprint'⟩ := hreplaced (query ++ '&' :: formPairs parameters) fun c hc => by
      rcases List.mem_append.1 hc with hc | hc
      · exact h.query query hquery c hc
      · rcases List.mem_cons.1 hc with rfl | hc
        · exact isQueryEncoded_ampersand _
        · exact isQueryEncoded_formPairs _ parameters c hc
    refine ⟨_, hwritten, ?_⟩
    simp [hprint', hprint]

/-- The address of a request to a host is read as that of the endpoint with another query. -/
theorem readChars_capabilitiesUrl {url : String} {u : Url}
    (h : Endpoint.hostUrl? (Text.trim url.toList) = some u) (serviceType : ServiceType)
    (version : Option String) :
    ∃ query?, Url.readChars (capabilitiesUrl url serviceType version).toList =
        .ok { Endpoint.ofUrl u with query? := query? } ∧
      segmentsOf (capabilitiesUrl url serviceType version).toList =
        (query?.map (·.splitOn '&')).getD [] := by
  obtain ⟨query?, hwritten, hprint⟩ := exists_print_appendParameters (Endpoint.isWritten_ofUrl h)
    (givenParameters serviceType version url)
  have haddress : (capabilitiesUrl url serviceType version).toList =
      { Endpoint.ofUrl u with query? := query? }.print := by
    rw [capabilitiesUrl_eq, ← hprint, Endpoint.simplify, Endpoint.simplifyChars_of_hostUrl? h]
  rw [haddress]
  exact ⟨query?, readChars_print hwritten, segmentsOf_print hwritten⟩

/-! ## What a request has -/

/-- A request has a parameter `service` if and only if the endpoint has one or does not mention it
at all; likewise for `request`, and, if a version is asked for, for the two parameters of which one
asks for it. For an endpoint at a host, the parts of which this is said are those of the query of
the address as it is read. -/
theorem hasNamed_capabilitiesUrl_iff (url : String) (serviceType : ServiceType)
    (version : Option String) :
    let base := (Endpoint.simplify url).toList
    let address := (capabilitiesUrl url serviceType version).toList
    (HasNamed (segmentsOf address) "service" ↔
        HasNamed (segmentsOf base) "service" ∨ ¬ Mentions base "service") ∧
      (HasNamed (segmentsOf address) "request" ↔
        HasNamed (segmentsOf base) "request" ∨ ¬ Mentions base "request") ∧
      ((normalizeVersion version).isSome →
        ((∃ name ∈ ["version", serviceType.versionParameter], HasNamed (segmentsOf address) name) ↔
          (∃ name ∈ ["version", serviceType.versionParameter], HasNamed (segmentsOf base) name) ∨
            ¬ ∃ name ∈ ["version", serviceType.versionParameter], Mentions base name)) ∧
      ∀ u, Endpoint.hostUrl? (Text.trim url.toList) = some u →
        ∃ query?, Url.readChars address = .ok { Endpoint.ofUrl u with query? := query? } ∧
          segmentsOf address = (query?.map (·.splitOn '&')).getD [] := by
  refine ⟨?_, ?_, fun hversion => ?_, fun u hu => readChars_capabilitiesUrl hu serviceType version⟩
  · rw [hasNamed_iff_given, given_fixed_iff serviceType version (by simp)]
  · rw [hasNamed_iff_given, given_fixed_iff serviceType version (by simp)]
  · rw [← given_version_iff serviceType version hversion]
    simp only [hasNamed_iff_given, and_or_left, exists_or]

/-- An endpoint with a parameter whose name ends in `service`. -/
def otherName : String := "http://maps.example.com/ows?webservice=roads&Version=1.1.1"

/-- The parameter `service` is not added, since the name `webservice` mentions it, and no version
is, since one is given. -/
theorem hasNamed_capabilitiesUrl_iff_other_name :
    (∃ u, Endpoint.hostUrl? (Text.trim otherName.toList) = some u) ∧
      (normalizeVersion (some "1.3.0")).isSome ∧
      segmentsOf (capabilitiesUrl otherName .wms (some "1.3.0")).toList =
        ["webservice=roads".toList, "Version=1.1.1".toList, "request=GetCapabilities".toList] ∧
      ¬ HasNamed (segmentsOf (capabilitiesUrl otherName .wms (some "1.3.0")).toList) "service" ∧
      HasNamed (segmentsOf (capabilitiesUrl otherName .wms (some "1.3.0")).toList) "request" ∧
      (∃ name ∈ ["version", "version"],
        HasNamed (segmentsOf (capabilitiesUrl otherName .wms (some "1.3.0")).toList) name) ∧
      ∃ r, Url.readChars (capabilitiesUrl otherName .wms (some "1.3.0")).toList = .ok r := by
  obtain ⟨u, hu⟩ : ∃ u, Endpoint.hostUrl? (Text.trim otherName.toList) = some u :=
    Option.isSome_iff_exists.1 (by decide +kernel)
  have hversion : (normalizeVersion (some "1.3.0")).isSome := by decide +kernel
  obtain ⟨hservice, hrequest, hasked, hread⟩ :=
    hasNamed_capabilitiesUrl_iff otherName .wms (some "1.3.0")
  obtain ⟨query?, hread, -⟩ := hread u hu
  exact ⟨⟨u, hu⟩, hversion, by decide +kernel, fun h => absurd (hservice.1 h) (by decide +kernel),
    hrequest.2 (by decide +kernel), (hasked hversion).2 (by decide +kernel), _, hread⟩

/-- So there are endpoints at hosts that are asked for capabilities without a parameter
`service`. -/
theorem not_hasNamed_of_other_name :
    ¬ ∀ (url : String) (u : Url), Endpoint.hostUrl? url.toList = some u →
      ∀ (serviceType : ServiceType) (version : Option String),
        HasNamed (segmentsOf (capabilitiesUrl url serviceType version).toList) "service" ∧
          HasNamed (segmentsOf (capabilitiesUrl url serviceType version).toList) "request" ∧
          ((normalizeVersion version).isSome →
            ∃ name ∈ ["version", serviceType.versionParameter],
              HasNamed (segmentsOf (capabilitiesUrl url serviceType version).toList) name) := by
  intro h
  obtain ⟨u, hu⟩ : ∃ u, Endpoint.hostUrl? otherName.toList = some u :=
    Option.isSome_iff_exists.1 (by decide +kernel)
  exact absurd (h otherName u hu .wms none).1 (by decide +kernel)

end MapServices.Request
