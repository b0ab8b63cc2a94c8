import MapServices.Key

/-!
# Notices

What an operation reports on the side: things that went wrong or look wrong, but did not keep the
operation from going on. A notice is a message for people with fields for machines.
-/

namespace MapServices

/-- A report on the side. -/
inductive Notice where
  /-- Some bytes of an answer do not belong to its encoding. -/
  | malformedBytes (encoding : String)
  /-- A layer links two tile matrix sets for one reference system. -/
  | severalSets (layer crs kept skipped : String)
  /-- The layers of one group have different credentials. -/
  | mixedCredentials (key : ServiceKey) (layerIds : List Int)
  /-- A refresh was asked for while another one is under way. -/
  | alreadyRunning
  /-- The layers could not be listed. -/
  | layersNotLoaded (error : ServiceError)
  /-- A group of layers was not refreshed. -/
  | groupNotRefreshed (key : ServiceKey) (layerIds : List Int) (error : ServiceError)
  /-- A layer of a refreshed group was not updated. -/
  | layerNotUpdated (layerId : Int) (layer : String) (error : ServiceError)
  /-- The document of a group was not stored. -/
  | documentNotStored (error : ServiceError)
  /-- The document of a single layer was not stored. -/
  | documentNotCached (layerId : Int) (error : ServiceError)
  /-- The capabilities of a single layer could not be read. -/
  | capabilitiesNotRead (layerId : Int) (layer endpoint : String) (error : ServiceError)
  /-- The derived properties that are stored for a layer make no sense. -/
  | unreadableCapabilities (layerId : Int)
deriving DecidableEq, Repr

namespace Notice

/-- The message for people. -/
def message : Notice → String
  | malformedBytes _ => "Response contained malformed byte sequences"
  | severalSets .. => "Multiple tile matrix sets for one CRS"
  | mixedCredentials .. =>
    "Layers sharing a service use different credentials, using the first layer's"
  | alreadyRunning => "Capabilities refresh already running, skipping"
  | layersNotLoaded _ => "Failed to load layers"
  | groupNotRefreshed .. => "Capabilities refresh failed for group"
  | layerNotUpdated .. => "Failed to update layer from capabilities"
  | documentNotStored _ => "Failed to store refreshed capabilities"
  | documentNotCached .. => "Failed to cache layer capabilities"
  | capabilitiesNotRead .. => "Failed to read layer capabilities"
  | unreadableCapabilities _ => "Discarding unreadable layer capabilities"

/-- The error that an operation met, with its kind. -/
private def errorFields (e : ServiceError) : List (String × String) :=
  [("error", e.message), ("kind", e.kind)]

/-- The numbers of layers in one line. -/
def layerList (layerIds : List Int) : String :=
  "[" ++ ", ".intercalate (layerIds.map fun id => s!"LayerId({id})") ++ "]"

/-- A version that was asked for, or that none was. -/
def optionalVersion : Option String → String
  | some v => "Some(" ++ String.ofList (Text.quoted v.toList) ++ ")"
  | none => "None"

/-- All that is said besides the message. -/
def details : Notice → List (String × String)
  | malformedBytes encoding => [("encoding", encoding)]
  | severalSets layer crs kept skipped =>
    [("layer", layer), ("crs", crs), ("kept", kept), ("skipped", skipped)]
  | mixedCredentials key layerIds => [("key", key.describe), ("layers", layerList layerIds)]
  | alreadyRunning => []
  | layersNotLoaded e => errorFields e
  | groupNotRefreshed key layerIds e =>
    [("url", key.url), ("service", key.serviceType.name),
      ("version", optionalVersion key.version), ("layers", layerList layerIds)] ++ errorFields e
  | layerNotUpdated id layer e => [("layer_id", toString id), ("layer", layer)] ++ errorFields e
  | documentNotStored e => [("error", e.message)]
  | documentNotCached id e => [("layer_id", toString id), ("error", e.message)]
  | capabilitiesNotRead id layer endpoint e =>
    [("layer_id", toString id), ("layer", layer), ("url", endpoint)] ++ errorFields e
  | unreadableCapabilities id => [("id", toString id)]

/-- The names of the details that are kept for machines. -/
def fieldNames : List String :=
  ["error", "kind", "layer_id", "key", "crs", "kept", "skipped", "encoding"]

/-- The fields for machines. -/
def fields (n : Notice) : List (String × String) := n.details.filter (fieldNames.contains ·.1)

end Notice

end MapServices
