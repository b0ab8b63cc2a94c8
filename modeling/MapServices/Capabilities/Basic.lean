import MapServices.Capabilities.Patch

/-!
# Capabilities of any service

The capabilities documents of map and tile services say something about their layers. Those of
feature services are kept, but not read.
-/

namespace MapServices

/-- The capabilities of a service, as far as they are read. -/
inductive ServiceCapabilities where
  | maps (capabilities : WmsCapabilities)
  | tiles (capabilities : WmtsCapabilities)
  /-- The document of a feature service. -/
  | features
deriving Inhabited

namespace ServiceCapabilities

/-- Reads a document of a service. -/
def read (serviceType : ServiceType) (xml : String) : Except DocumentError ServiceCapabilities :=
  match serviceType with
  | .wms => maps <$> WmsCapabilities.read xml
  | .wmts => tiles <$> WmtsCapabilities.read xml
  | .wfs => .ok features

/-- The new properties of a layer, if documents of this kind give any. -/
def patch? (c : ServiceCapabilities) (l : Layer) :
    Except DocumentError (Option LayerPatch) × List Notice :=
  match c with
  | maps c => (some <$> c.patch l, [])
  | tiles c =>
    let (result, notices) := c.patch l
    (some <$> result, notices)
  | features => (.ok none, [])

/-- The layer with its new properties, if documents of this kind give any. -/
def refreshed (c : ServiceCapabilities) (l : Layer) (now : Instant) :
    Except ServiceError Layer × List Notice :=
  let (result, notices) := c.patch? l
  match result with
  | .error e => (.error e.toServiceError, notices)
  | .ok none => (.ok l, notices)
  | .ok (some patch) => (l.withPatch patch now, notices)

end ServiceCapabilities

end MapServices
