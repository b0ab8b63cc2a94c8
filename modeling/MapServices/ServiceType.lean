import MapServices.Error
import MapServices.Json.Decode
import MapServices.Text.Blank

/-!
# Types of services

The three kinds of web services whose capabilities are kept, and what depends on the kind: names,
the parameter that asks for a version, and whether layers are refreshed together.
-/

namespace MapServices

/-- A kind of web service. -/
inductive ServiceType where
  /-- A service of rendered maps. -/
  | wms
  /-- A service of features. -/
  | wfs
  /-- A service of map tiles. -/
  | wmts
deriving DecidableEq, Inhabited, Repr

namespace ServiceType

/-- The value of the parameter `service`, and the name shown to people. -/
def name : ServiceType → String
  | wms => "WMS"
  | wfs => "WFS"
  | wmts => "WMTS"

/-- The name in lower case, which stands for the type in stored data. -/
def label : ServiceType → String
  | wms => "wms"
  | wfs => "wfs"
  | wmts => "wmts"

/-- The name of the layers of the service in layer configurations. -/
def layerType : ServiceType → String
  | wms => "wmslayer"
  | wfs => "wfslayer"
  | wmts => "wmtslayer"

/-- The parameter by which a version is asked for. -/
def versionParameter : ServiceType → String
  | wms => "version"
  | wfs | wmts => "acceptVersions"

/-- Whether the layers of one service are refreshed together. -/
def refreshesInGroups : ServiceType → Bool
  | wms | wmts => true
  | wfs => false

/-- The place of the type in the order of types. -/
def rank : ServiceType → Nat
  | wms => 0
  | wfs => 1
  | wmts => 2

instance : Ord ServiceType where
  compare a b := compare a.rank b.rank

theorem rank_injective {a b : ServiceType} (h : a.rank = b.rank) : a = b := by
  cases a <;> cases b <;> simp_all [rank]

instance : Std.TransOrd ServiceType :=
  inferInstanceAs (Std.TransCmp (compareOn rank))

instance : Std.LawfulEqOrd ServiceType where
  eq_of_compare h := by
    refine rank_injective ?_
    exact Std.LawfulEqCmp.eq_of_compare (show compare (rank _) (rank _) = .eq from h)

/-- The type that a configured name stands for: a name of the service or of its layers, in any
letter case. -/
def ofName (text : String) : Except ServiceError ServiceType :=
  match Text.lowered (Text.trimmed text) with
  | "wms" | "wmslayer" => .ok wms
  | "wfs" | "wfslayer" => .ok wfs
  | "wmts" | "wmtslayer" => .ok wmts
  | other => .error (.config ("Unknown service type: " ++ other))

/-- The type with the given label. -/
def ofLabel? : String → Option ServiceType
  | "wms" => some wms
  | "wfs" => some wfs
  | "wmts" => some wmts
  | _ => none

/-- The type in stored data. -/
def toJson (t : ServiceType) : Json := .ofString t.label

/-- Reads a label, or an object whose only field is named by the label and holds nothing. -/
def ofJson? : Json → Option ServiceType
  | .text (some label) => ofLabel? label
  | .object [(some label, .null)] => ofLabel? label
  | _ => none

end ServiceType

end MapServices
