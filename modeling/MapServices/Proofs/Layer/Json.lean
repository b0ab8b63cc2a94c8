import MapServices.Layer.Json
import MapServices.Proofs.Json.Number
import MapServices.Proofs.Json.Record
import MapServices.Proofs.Json.Refusal

/-!
# Derived properties in stored data

All derived properties but the two scales are read back from stored data as they were written. A
scale is read back as far as its number is: one that is not finite is stored as `null` and gets
lost, and one whose digits are read as another double is changed.

* `LayerCapabilities.ofJson?_toJson`: what is read, for any properties.
* `LayerCapabilities.ofJson?_toJson_eq_some_iff`: when the same properties are read.
* `LayerCapabilities.refusal?_toJson_eq_none_iff`: when the stored data are taken up at all.
-/

namespace MapServices

namespace Json

theorem roundTrips_nameMap : RoundTrips ofNameMap toNameMap? where
  isWritten m := isWritten_record (List.forall_mem_map.2 fun e _ => .text e.2)
  read_write m := by
    have hentries : (m.entries.map fun e => (some e.1, ofString e.2)).mapM
        (fun e => do return (← e.1, ← toText? e.2)) = some m.entries := by
      rw [List.mapM_map]
      exact (Lists.mapM_eq_some_map (g := id) fun e _ => rfl).trans (by rw [List.map_id])
    have hform : ofNameMap m = .object (m.entries.map fun e => (some e.1, ofString e.2)) := by
      rw [ofNameMap, record, List.map_map]
      rfl
    rw [hform, toNameMap?]
    exact (congrArg (· >>= _) hentries).trans (congrArg some m.ofList_entries)

theorem roundTrips_optionalText :
    RoundTrips (ofOption ofString) (toOption? toText?) :=
  .option .string rfl

end Json

theorem Style.roundTrips : Json.RoundTrips toJson ofJson? where
  isWritten s := by
    refine Json.isWritten_record ?_
    simp only [List.forall_mem_cons]
    exact ⟨.text _, Json.roundTrips_optionalText.isWritten _,
      Json.roundTrips_optionalText.isWritten _, nofun⟩
  read_write s := by
    have hslots : s.toJson.slots? ["name", "title", "legend_url"] =
        some [.given (.ofString s.name), .given (.ofOption .ofString s.title),
          .given (.ofOption .ofString s.legendUrl)] := Json.slots?_record (by simp)
    simp [ofJson?, hslots, Json.Slot.required, Json.Slot.optional,
      Json.roundTrips_optionalText.read_write, Json.RoundTrips.string.read_write]

theorem ResourceUrl.roundTrips : Json.RoundTrips toJson ofJson? where
  isWritten r := by
    refine Json.isWritten_record ?_
    simp only [List.forall_mem_cons]
    exact ⟨.text _, .text _, .text _, nofun⟩
  read_write r := by
    have hslots : r.toJson.slots? ["format", "resource_type", "template"] =
        some [.given (.ofString r.format), .given (.ofString r.resourceType),
          .given (.ofString r.template)] := Json.slots?_record (by simp)
    simp [ofJson?, hslots, Json.Slot.required, Json.RoundTrips.string.read_write]

namespace Json

/-- The double is read from stored data as it was written. -/
def Keeps (x : Float) : Prop := toFloat? (ofFloat x) = some x

instance (x : Float) : Decidable (Keeps x) := inferInstanceAs (Decidable (_ = _))

/-- What is read of an optional double: nothing for one that is not finite. -/
def reread (x? : Option Float) : Option (Option Float) :=
  toOption? toFloat? (ofOption ofFloat x?)

theorem not_keeps_of_not_isFinite {x : Float} (h : x.isFinite = false) : ¬ Keeps x := by
  simp [Keeps, ofFloat, h, toFloat?]

theorem reread_of_not_isFinite {x : Float} (h : x.isFinite = false) :
    reread (some x) = some none := by
  simp [reread, ofOption, ofFloat, h, toOption?]

theorem reread_eq_some_iff {x? : Option Float} : reread x? = some x? ↔ ∀ x ∈ x?, Keeps x := by
  cases x? with
  | none => simp [reread, ofOption, toOption?]
  | some x =>
    cases hx : x.isFinite with
    | false => simp [reread_of_not_isFinite hx, not_keeps_of_not_isFinite hx]
    | true =>
      have hne : ofFloat x ≠ .null := by simp [ofFloat, hx]
      simp [reread, ofOption, toOption?_of_ne hne, Keeps]

-- the digits of the first number are those of a double, and the digits of the second are not
example : Keeps 559082264.0287178 ∧ ¬ Keeps 15152.288168283161 := by decide +kernel

end Json

namespace LayerCapabilities

/-- Each scale is read from stored data as it was written. -/
structure KeepsScales (c : LayerCapabilities) : Prop where
  minScale : ∀ x ∈ c.minScale, Json.Keeps x
  maxScale : ∀ x ∈ c.maxScale, Json.Keeps x

theorem isWritten_scale (x? : Option Float) : (Json.ofOption Json.ofFloat x?).IsWritten := by
  cases x? with
  | none => exact .null
  | some x => exact Json.isWritten_ofFloat x

theorem isWritten_toJson (c : LayerCapabilities) : c.toJson.IsWritten := by
  refine Json.isWritten_record ?_
  simp only [List.forall_mem_cons]
  exact ⟨Style.roundTrips.list.isWritten _, Json.RoundTrips.string.list.isWritten _,
    Json.RoundTrips.string.list.isWritten _, .bool _, isWritten_scale _, isWritten_scale _,
    Json.RoundTrips.nameSet.isWritten _, Json.roundTrips_optionalText.isWritten _,
    Json.roundTrips_nameMap.isWritten _, ResourceUrl.roundTrips.list.isWritten _,
    Json.roundTrips_optionalText.isWritten _, nofun⟩

/-- The names of the properties in stored data. -/
def fieldNames : List String :=
  ["styles", "formats", "info_formats", "queryable", "min_scale", "max_scale", "crs", "geometry",
    "tile_matrix_sets", "resource_urls", "version"]

/-- All properties but the scales are read as they were written. -/
theorem ofJson?_toJson (c : LayerCapabilities) :
    ofJson? c.toJson = (Json.reread c.minScale).bind fun minScale =>
      (Json.reread c.maxScale).map fun maxScale => { c with minScale, maxScale } := by
  have hslots : c.toJson.slots? fieldNames = some [
      .given (.array (c.styles.map Style.toJson)),
      .given (.array (c.formats.map Json.ofString)),
      .given (.array (c.infoFormats.map Json.ofString)),
      .given (.bool c.queryable),
      .given (.ofOption .ofFloat c.minScale),
      .given (.ofOption .ofFloat c.maxScale),
      .given (.ofStrings c.crs.toList),
      .given (.ofOption .ofString c.geometry),
      .given (.ofNameMap c.tileMatrixSets),
      .given (.array (c.resourceUrls.map ResourceUrl.toJson)),
      .given (.ofOption .ofString c.version)] :=
    Json.slots?_record (show fieldNames.Nodup by decide)
  unfold fieldNames at hslots
  simp only [ofJson?, hslots, Json.Slot.orDefault, Style.roundTrips.list.read_write,
    Json.RoundTrips.string.list.read_write, Json.RoundTrips.bool.read_write,
    Json.RoundTrips.nameSet.read_write, Json.roundTrips_optionalText.read_write,
    Json.roundTrips_nameMap.read_write, ResourceUrl.roundTrips.list.read_write,
    Option.bind_eq_bind, Option.bind_some, Option.map_eq_bind]
  rfl

theorem ofJson?_toJson_eq_some_iff {c : LayerCapabilities} :
    ofJson? c.toJson = some c ↔ c.KeepsScales := by
  rw [ofJson?_toJson]
  constructor
  · intro h
    obtain ⟨minScale, hmin, h⟩ := Option.bind_eq_some_iff.1 h
    obtain ⟨maxScale, hmax, h⟩ := Option.map_eq_some_iff.1 h
    have hmin' : minScale = c.minScale := congrArg LayerCapabilities.minScale h
    have hmax' : maxScale = c.maxScale := congrArg LayerCapabilities.maxScale h
    rw [hmin'] at hmin
    rw [hmax'] at hmax
    exact ⟨Json.reread_eq_some_iff.1 hmin, Json.reread_eq_some_iff.1 hmax⟩
  · intro h
    rw [Json.reread_eq_some_iff.2 h.minScale, Json.reread_eq_some_iff.2 h.maxScale]
    rfl

/-! ## Whether stored data are taken up -/

/-- Something is read from stored data for each scale. -/
structure ReadableScales (c : LayerCapabilities) : Prop where
  minScale : (Json.reread c.minScale).isSome
  maxScale : (Json.reread c.maxScale).isSome

theorem refusalWithin?_scale {limit : Nat} {x? : Option Float} :
    Json.refusalWithin? limit (.ofOption .ofFloat x?) = none ↔ (Json.reread x?).isSome := by
  cases x? with
  | none => simp [Json.ofOption, Json.refusalWithin?, Json.reread, Json.toOption?]
  | some x =>
    cases hx : x.isFinite with
    | false =>
      simp [Json.ofOption, Json.ofFloat, hx, Json.refusalWithin?, Json.reread, Json.toOption?]
    | true =>
      simp [Json.ofOption, Json.ofFloat, hx, Json.refusalWithin?, Json.reread, Json.toOption?,
        Json.toFloat?, Option.isSome_iff_ne_none]

theorem refusalWithin?_style {limit : Nat} (h : 1 < limit) (s : Style) :
    Json.refusalWithin? limit s.toJson = none := by
  rw [Style.toJson, Json.refusalWithin?_record h]
  simp only [List.forall_mem_cons, Json.refusalWithin?_ofString, Json.refusalWithin?_optionalText,
    true_and]
  exact nofun

theorem refusalWithin?_resourceUrl {limit : Nat} (h : 1 < limit) (r : ResourceUrl) :
    Json.refusalWithin? limit r.toJson = none := by
  rw [ResourceUrl.toJson, Json.refusalWithin?_record h]
  simp only [List.forall_mem_cons, Json.refusalWithin?_ofString, true_and]
  exact nofun

theorem refusalWithin?_nameMap {limit : Nat} (h : 1 < limit) (m : SortedMap String String) :
    Json.refusalWithin? limit (.ofNameMap m) = none := by
  rw [Json.ofNameMap, Json.refusalWithin?_record h, List.forall_mem_map]
  exact fun e _ => Json.refusalWithin?_ofString e.2

/-- Stored properties are taken up just if something is read for each scale. -/
theorem refusal?_toJson_eq_none_iff {c : LayerCapabilities} :
    c.toJson.refusal? = none ↔ c.ReadableScales := by
  have hstyles : Json.refusalWithin? 127 (.array (c.styles.map Style.toJson)) = none := by
    rw [Json.refusalWithin?_array (by decide), List.forall_mem_map]
    exact fun s _ => refusalWithin?_style (by decide) s
  have hurls : Json.refusalWithin? 127 (.array (c.resourceUrls.map ResourceUrl.toJson)) = none := by
    rw [Json.refusalWithin?_array (by decide), List.forall_mem_map]
    exact fun r _ => refusalWithin?_resourceUrl (by decide) r
  have hqueryable : Json.refusalWithin? 127 (.bool c.queryable) = none := by
    rw [Json.refusalWithin?]
  rw [Json.refusal?, toJson, Json.refusalWithin?_record (by decide)]
  simp only [List.forall_mem_cons, hstyles, hurls, hqueryable, refusalWithin?_scale,
    Json.refusalWithin?_ofStrings (show 1 < 127 by decide),
    refusalWithin?_nameMap (show 1 < 127 by decide), Json.refusalWithin?_optionalText, true_and]
  constructor
  · rintro ⟨hmin, hmax, -⟩
    exact ⟨hmin, hmax⟩
  · intro h
    exact ⟨h.minScale, h.maxScale, List.forall_mem_nil _⟩

end LayerCapabilities

end MapServices
