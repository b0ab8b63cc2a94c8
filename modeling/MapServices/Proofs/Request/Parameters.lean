import MapServices.Proofs.Lists
import MapServices.Proofs.Url.Form
import MapServices.Request

/-!
# The parameters of a request

* `placeOf`, `segmentsOf`: what stands before the query of an address, and the parts of the query.
* `segmentsOf_appendParameters`: parameters are put behind the parts that are there, and nothing
  else changes.
* `capabilitiesUrl_adds`: a request for capabilities gives the parameters that the endpoint lacks,
  each once, and they are read back.
-/

namespace MapServices

open Url

/-! ## Queries of addresses -/

namespace Request

/-- What stands before the query of an address. -/
def placeOf (address : List Char) : List Char :=
  ((Text.cutAt? '?' address).map Prod.fst).getD address

/-- The parts of the query of an address. -/
def segmentsOf (address : List Char) : List (List Char) :=
  match Text.cutAt? '?' address with
  | some (_, query) => query.splitOn '&'
  | none => []

variable {address : List Char} {parameters : List (String × String)}

theorem splitOn_formPairs (h : parameters ≠ []) :
    (formPairs parameters).splitOn '&' = parameters.map formPair := by
  refine List.splitOn_intercalate '&' ?_ (by simpa using h)
  intro part hpart hmark
  obtain ⟨pair, -, rfl⟩ := List.mem_map.1 hpart
  exact forall_mem_formPair (p := (· ≠ '&')) (by decide +kernel) (by decide) '&' hmark rfl

theorem splitOn_append_formPairs (query : List Char) (h : parameters ≠ []) :
    (query ++ '&' :: formPairs parameters).splitOn '&' =
      query.splitOn '&' ++ parameters.map formPair := by
  rw [← splitOn_formPairs h]
  simp only [List.splitOn_eq_splitOnP]
  exact List.splitOnP_append_cons _ _ (by simp)

/-- An address with more parameters has the same place, and its query has the same parts with those
of the parameters behind them. -/
theorem segmentsOf_appendParameters (endpoint : String) (parameters : List (String × String)) :
    placeOf (appendParameters endpoint parameters).toList = placeOf endpoint.toList ∧
      segmentsOf (appendParameters endpoint parameters).toList =
        segmentsOf endpoint.toList ++ parameters.map formPair := by
  unfold appendParameters
  by_cases hnone : parameters = []
  · simp [hnone]
  rw [if_neg (by simpa using hnone)]
  -- the first question mark is that of the endpoint, if it has a query
  by_cases hmark : '?' ∈ endpoint.toList
  · obtain ⟨place, query, hendpoint, hplace⟩ := List.eq_append_cons_of_mem hmark
    have hcut := Text.cutAt?_append hplace query
    have hcut' := Text.cutAt?_append hplace (query ++ '&' :: formPairs parameters)
    simp [placeOf, segmentsOf, hendpoint, hcut, hcut', splitOn_append_formPairs query hnone]
  · have hcut := Text.cutAt?_append hmark (formPairs parameters)
    simp [placeOf, segmentsOf, hmark, hcut, Text.cutAt?_eq_none hmark, splitOn_formPairs hnone]

theorem prefix_appendParameters (endpoint : String) (parameters : List (String × String)) :
    endpoint.toList <+: (appendParameters endpoint parameters).toList := by
  unfold appendParameters
  split
  · exact List.prefix_rfl
  · rw [String.toList_append]
    exact List.prefix_append _ _

/-! ## Occurrences of a name -/

/-- The name with an equals sign behind it occurs in the text, whatever the letter case. -/
def Mentions (text : List Char) (name : String) : Prop :=
  Text.lower name.toList ++ ['='] <:+: Text.lower text

theorem hasParameter_iff {endpoint name : String} :
    Endpoint.hasParameter endpoint name ↔ Mentions endpoint.toList name :=
  Text.occursIn_iff

instance (text : List Char) (name : String) : Decidable (Mentions text name) :=
  decidable_of_iff _ Text.occursIn_iff

theorem Mentions.mono {text text' : List Char} {name : String} (h : Mentions text name)
    (htext : text <:+: text') : Mentions text' name :=
  h.trans (htext.map Char.toLower)

/-- A parameter that stands in a query is mentioned, if its name is written as it is. -/
theorem mentions_of_mem {pair : String × String} (hmem : formPair pair ∈ segmentsOf address)
    (hname : formEncode pair.1.toList = pair.1.toList) : Mentions address pair.1 := by
  have hpair : Mentions (formPair pair) pair.1 := by
    refine ⟨[], Text.lower (formEncode pair.2.toList), ?_⟩
    simp [formPair, hname, Text.lower]
  refine hpair.mono ?_
  unfold segmentsOf at hmem
  split at hmem
  · rename_i place query hcut
    rw [Text.cut?_eq_some hcut]
    exact (Lists.isInfix_of_mem_splitOn hmem).trans (List.suffix_append _ _).isInfix
  · cases hmem

/-! ## The parameters of a request for capabilities -/

variable (serviceType : ServiceType) (version : Option String)

/-- All that a request for capabilities says, in order: the type of the service, the operation, and
the version that is asked for, if any is. -/
def wantedParameters : List (String × String) :=
  [("service", serviceType.name)] ++ [("request", "GetCapabilities")] ++
    (normalizeVersion version).toList.map (serviceType.versionParameter, ·)

/-- The address does not mention the parameter; and if the parameter asks for a version, then the
address does not mention the parameter `version` either. -/
def Lacks (address : List Char) (parameter : String × String) : Prop :=
  ¬ Mentions address parameter.1 ∧
    (parameter.1 = serviceType.versionParameter → ¬ Mentions address "version")

instance (address : List Char) (parameter : String × String) :
    Decidable (Lacks serviceType address parameter) :=
  inferInstanceAs (Decidable (_ ∧ _))

/-- The parameters that a request for capabilities gives: those which the endpoint lacks. -/
def givenParameters (url : String) : List (String × String) :=
  (wantedParameters serviceType version).filter
    fun parameter => Lacks serviceType (Endpoint.simplify url).toList parameter

theorem ne_versionParameter :
    "service" ≠ serviceType.versionParameter ∧ "request" ≠ serviceType.versionParameter := by
  cases serviceType <;> decide

theorem missingParameters_eq (endpoint : String) :
    missingParameters endpoint serviceType version =
      (wantedParameters serviceType version).filter
        fun parameter => Lacks serviceType endpoint.toList parameter := by
  have hlacks : ∀ name, (!Endpoint.hasParameter endpoint name) = true ↔
      ¬ Mentions endpoint.toList name := fun name => by
    rw [Bool.not_eq_true', ← Bool.not_eq_true, hasParameter_iff]
  have hgiven : ∀ {parameter : String × String} {given : Bool},
      (given = true ↔ Lacks serviceType endpoint.toList parameter) →
        [parameter].filter (fun _ => given) =
          [parameter].filter fun parameter => Lacks serviceType endpoint.toList parameter := by
    intro parameter given h
    simp only [List.filter_cons, List.filter_nil, h, decide_eq_true_eq]
  obtain ⟨hservice, hrequest⟩ := ne_versionParameter serviceType
  rw [missingParameters, wantedParameters, List.filter_append, List.filter_append]
  refine congrArg₂ (· ++ ·) (congrArg₂ (· ++ ·) (hgiven ?_) (hgiven ?_)) ?_
  · simp only [hlacks, Lacks, hservice, false_implies, and_true]
  · simp only [hlacks, Lacks, hrequest, false_implies, and_true]
  · cases normalizeVersion version with
    | none => rfl
    | some v =>
      refine hgiven ?_
      simp only [Bool.and_eq_true, hlacks, Lacks, true_implies, and_comm]

theorem capabilitiesUrl_eq (url : String) : capabilitiesUrl url serviceType version =
    appendParameters (Endpoint.simplify url) (givenParameters serviceType version url) := by
  rw [capabilitiesUrl, missingParameters_eq, givenParameters]

/-! ### What is read back -/

theorem formEncode_name {parameter : String × String}
    (h : parameter ∈ wantedParameters serviceType version) :
    formEncode parameter.1.toList = parameter.1.toList := by
  have hnames : ∀ name ∈ ["service", "request", serviceType.versionParameter],
      formEncode name.toList = name.toList := by
    cases serviceType <;> decide +kernel
  refine hnames _ ?_
  simp only [wantedParameters, List.mem_append, List.mem_singleton, List.mem_map] at h
  rcases h with (rfl | rfl) | ⟨v, -, rfl⟩ <;> simp

/-- A request mentions each parameter that it should give, or `version` in the place of the
parameter that asks for a version. -/
theorem mentions_of_mem_wantedParameters {url : String} {parameter : String × String}
    (h : parameter ∈ wantedParameters serviceType version) :
    Mentions (capabilitiesUrl url serviceType version).toList parameter.1 ∨
      parameter.1 = serviceType.versionParameter ∧
        Mentions (capabilitiesUrl url serviceType version).toList "version" := by
  have hbase := (prefix_appendParameters (Endpoint.simplify url)
    (givenParameters serviceType version url)).isInfix
  rw [capabilitiesUrl_eq]
  by_cases hlacks : Lacks serviceType (Endpoint.simplify url).toList parameter
  · -- the parameter is given, and a name is written as it is
    refine .inl (mentions_of_mem ?_ (formEncode_name serviceType version h))
    rw [(segmentsOf_appendParameters _ _).2]
    refine List.mem_append_right _ (List.mem_map_of_mem ?_)
    exact List.mem_filter.2 ⟨h, by simpa using hlacks⟩
  · rw [Lacks, Classical.not_and_iff_not_or_not, not_not, Classical.not_imp, not_not] at hlacks
    rcases hlacks with hthere | ⟨hname, hthere⟩
    · exact .inl (hthere.mono hbase)
    · exact .inr ⟨hname, hthere.mono hbase⟩

/-- The address of a request for capabilities is that of the endpoint with new parts behind those of
its query: the parameters that the endpoint lacks, in their order and as they are written in a form,
which are read back whatever the version is. So nothing is lost, given twice or smuggled in, and in
the end the type of the service, the operation and a version that is asked for are all mentioned. -/
theorem capabilitiesUrl_adds (url : String) (serviceType : ServiceType) (version : Option String) :
    let base := (Endpoint.simplify url).toList
    let address := (capabilitiesUrl url serviceType version).toList
    let given := (wantedParameters serviceType version).filter
      fun parameter => Lacks serviceType base parameter
    (base <+: address ∧ placeOf address = placeOf base) ∧
      segmentsOf address = segmentsOf base ++ given.map formPair ∧
      (given.map formPair).map decodePair = given ∧
      Mentions address "service" ∧ Mentions address "request" ∧
      ((normalizeVersion version).isSome →
        Mentions address "version" ∨ Mentions address serviceType.versionParameter) := by
  intro base address given
  obtain ⟨hplace, hsegments⟩ := segmentsOf_appendParameters (Endpoint.simplify url) given
  have haddress : address = (appendParameters (Endpoint.simplify url) given).toList :=
    congrArg String.toList (capabilitiesUrl_eq serviceType version url)
  have hmentions : ∀ parameter ∈ wantedParameters serviceType version,
      Mentions address parameter.1 ∨ parameter.1 = serviceType.versionParameter ∧
        Mentions address "version" :=
    fun parameter => mentions_of_mem_wantedParameters serviceType version
  have hfixed : ∀ parameter ∈ wantedParameters serviceType version,
      parameter.1 ≠ serviceType.versionParameter → Mentions address parameter.1 :=
    fun parameter hmem hname => (hmentions parameter hmem).resolve_right fun h => hname h.1
  refine ⟨⟨?_, ?_⟩, ?_, ?_, ?_, ?_, ?_⟩
  · rw [haddress]
    exact prefix_appendParameters _ _
  · rw [haddress, hplace]
  · rw [haddress, hsegments]
  · rw [List.map_map]
    exact (List.map_congr_left fun pair _ => decodePair_formPair pair).trans (List.map_id given)
  · exact hfixed ("service", serviceType.name) (by simp [wantedParameters])
      (ne_versionParameter serviceType).1
  · exact hfixed ("request", "GetCapabilities") (by simp [wantedParameters])
      (ne_versionParameter serviceType).2
  · intro hversion
    obtain ⟨v, hv⟩ := Option.isSome_iff_exists.1 hversion
    have hmem : (serviceType.versionParameter, v) ∈ wantedParameters serviceType version := by
      simp [wantedParameters, hv]
    rcases hmentions _ hmem with h | ⟨-, h⟩
    · exact .inr h
    · exact .inl h

/-- A version with signs that separate parameters stays one parameter, and the parameter `request`
is not added again. -/
theorem capabilitiesUrl_adds_separators :
    (normalizeVersion (some " 2.0&a=#ü ")).isSome ∧
      segmentsOf (capabilitiesUrl "http://host/wfs?Request=x" .wfs (some " 2.0&a=#ü ")).toList =
        ["Request=x".toList, "service=WFS".toList, "acceptVersions=2.0%26a%3D%23%C3%BC".toList] ∧
      (Mentions (capabilitiesUrl "http://host/wfs?Request=x" .wfs (some " 2.0&a=#ü ")).toList
          "version" ∨
        Mentions (capabilitiesUrl "http://host/wfs?Request=x" .wfs (some " 2.0&a=#ü ")).toList
          "acceptVersions") := by
  have hversion : (normalizeVersion (some " 2.0&a=#ü ")).isSome := by decide +kernel
  obtain ⟨-, -, -, -, -, hmentions⟩ :=
    capabilitiesUrl_adds "http://host/wfs?Request=x" .wfs (some " 2.0&a=#ü ")
  exact ⟨hversion, by decide +kernel, hmentions hversion⟩

end Request

end MapServices
