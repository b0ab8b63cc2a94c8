import MapServices.Endpoint
import MapServices.Layer.Json

/-!
# Keys of capabilities documents

A capabilities document is known by the endpoint that publishes it, the type of the service and the
version that was asked for. Layers with one key share one document.

Keys are ordered by endpoint, then type, then version, and no version comes before every version.
-/

namespace MapServices

/-- The version that a configured text asks for. A blank text asks for none. -/
def normalizeVersion (version : Option String) : Option String := version.bind Text.nonBlank?

/-- What a capabilities document is known by. -/
structure ServiceKey where
  /-- The endpoint in its one spelling. -/
  url : String
  serviceType : ServiceType
  version : Option String
deriving DecidableEq, Inhabited, Repr

namespace ServiceKey

/-- The key of a configured address, type and version. -/
def ofParts (url : String) (serviceType : ServiceType) (version : Option String) : ServiceKey where
  url := Endpoint.simplify url
  serviceType := serviceType
  version := normalizeVersion version

/-- The key of the document that describes a layer. -/
def ofLayer (l : Layer) : ServiceKey := ofParts l.url l.serviceType l.version

/-- The key in one line; a star stands for no version. -/
def describe (k : ServiceKey) : String :=
  k.serviceType.name ++ " " ++ k.version.getD "*" ++ " " ++ k.url

/-! ### The order of keys -/

instance : Ord ServiceKey where
  compare := compareLex (compareOn url) (compareLex (compareOn serviceType) (compareOn version))

instance : Std.TransOrd ServiceKey :=
  inferInstanceAs
    (Std.TransCmp
      (compareLex (compareOn url) (compareLex (compareOn serviceType) (compareOn version))))

theorem eq_of_compare {a b : ServiceKey} (h : compare a b = .eq) : a = b := by
  have h : compareLex (compareOn url) (compareLex (compareOn serviceType) (compareOn version)) a b =
      .eq := h
  obtain ⟨hu, h⟩ := compareLex_eq_eq.1 h
  obtain ⟨ht, hv⟩ := compareLex_eq_eq.1 h
  have hu : a.url = b.url := Std.LawfulEqCmp.eq_of_compare hu
  have ht : a.serviceType = b.serviceType := Std.LawfulEqCmp.eq_of_compare ht
  have hv : a.version = b.version := Std.LawfulEqCmp.eq_of_compare hv
  cases a; cases b; simp_all

instance : Std.LawfulEqOrd ServiceKey where
  eq_of_compare := eq_of_compare

/-! ### Keys in stored data -/

/-- The key in stored data. -/
def toJson (k : ServiceKey) : Json :=
  .record [("url", .ofString k.url), ("service_type", k.serviceType.toJson),
    ("version", .ofOption .ofString k.version)]

/-- Reads a key from stored data. -/
def ofJson? (j : Json) : Option ServiceKey := do
  match ← j.slots? ["url", "service_type", "version"] with
  | [url, serviceType, version] =>
    let url ← url.required Json.toText?
    let serviceType ← serviceType.required ServiceType.ofJson?
    let version ← version.optional Json.toText?
    return { url, serviceType, version }
  | _ => none

end ServiceKey

end MapServices
