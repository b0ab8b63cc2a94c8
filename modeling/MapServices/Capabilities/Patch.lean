import MapServices.Capabilities.Wms
import MapServices.Capabilities.Wmts
import MapServices.Crs
import MapServices.Notice

/-!
# From capabilities to the properties of a layer

`WmsCapabilities.patch` and `WmtsCapabilities.patch` derive the properties of one configured layer.
The reference systems are written in their one spelling, and a box counts only if it is valid.

A tile layer has the reference systems of the tile matrix sets that it links. For each of them it
uses the first set that is linked, and it is visible over the scales of all linked sets.
-/

namespace MapServices

/-- The area of a box in well-known text, if the box is valid. -/
def geometry? (box : Option BoundingBox) : Option String :=
  (box.filter BoundingBox.isValid).map BoundingBox.toWkt

namespace WmsCapabilities

/-- The properties that a map service gives a layer. -/
def layerCapabilities (c : WmsCapabilities) (l : WmsLayer) : LayerCapabilities where
  styles := l.styles
  formats := c.formats
  infoFormats := c.infoFormats
  queryable := l.queryable
  minScale := l.minScale
  maxScale := l.maxScale
  crs := NameSet.ofList (l.crs.toList.map Crs.normalize)
  geometry := geometry? l.boundingBox
  version := c.version

/-- The new properties of a configured layer. -/
def patch (c : WmsCapabilities) (layer : Layer) : Except DocumentError LayerPatch :=
  match c.find? layer.name with
  | none => .error (.layerNotFound layer.name)
  | some found => do
    found.check
    return { layerId := layer.id, capabilities := c.layerCapabilities found }

end WmsCapabilities

namespace WmtsCapabilities

/-- The tile matrix set that a layer links, which must be defined. -/
def linkedSet (c : WmtsCapabilities) (l : WmtsLayer) (link : String) :
    Except DocumentError TileMatrixSet :=
  match c.tileMatrixSet? link with
  | some set => .ok set
  | none => .error (.unknownSet l.identifier link)

/-- The properties of a layer that do not depend on tile matrix sets. -/
def ownCapabilities (c : WmtsCapabilities) (l : WmtsLayer) : LayerCapabilities where
  styles := l.styles
  formats := l.formats
  infoFormats := l.infoFormats
  queryable := !l.infoFormats.isEmpty
  geometry := geometry? l.box
  resourceUrls := l.resourceUrls
  version := c.version

/-- The scales of a layer that is also available in another set. -/
def addScales (capabilities : LayerCapabilities) (set : TileMatrixSet) : LayerCapabilities :=
  match set.scaleRange? with
  | none => capabilities
  | some (least, greatest) =>
    { capabilities with
      minScale := some ((capabilities.minScale.map (lesser · least)).getD least)
      maxScale := some ((capabilities.maxScale.map (greater · greatest)).getD greatest) }

/-- The properties of a layer that is also available in another set, and a notice if that set is not
used. -/
def addSet (l : WmtsLayer) (capabilities : LayerCapabilities) (set : TileMatrixSet) :
    LayerCapabilities × List Notice :=
  let crs := Crs.normalize set.supportedCrs
  let withCrs := { capabilities with crs := capabilities.crs.insert crs }
  match capabilities.tileMatrixSets.get? crs with
  | some kept => (addScales withCrs set, [.severalSets l.identifier crs kept set.identifier])
  | none =>
    let sets := capabilities.tileMatrixSets.insert crs set.identifier
    (addScales { withCrs with tileMatrixSets := sets } set, [])

/-- Goes through the sets that a layer links, up to one that is not defined. -/
def addLinks (c : WmtsCapabilities) (l : WmtsLayer) (capabilities : LayerCapabilities) :
    List String → Except DocumentError LayerCapabilities × List Notice
  | [] => (.ok capabilities, [])
  | link :: links =>
    match c.linkedSet l link with
    | .error e => (.error e, [])
    | .ok set =>
      let (capabilities, notices) := addSet l capabilities set
      let (result, more) := addLinks c l capabilities links
      (result, notices ++ more)

/-- The new properties of a configured layer. -/
def patch (c : WmtsCapabilities) (layer : Layer) : Except DocumentError LayerPatch × List Notice :=
  match c.find? layer.name with
  | none => (.error (.layerNotFound layer.name), [])
  | some found =>
    let (result, notices) := addLinks c found (c.ownCapabilities found) found.links
    (result.map fun capabilities => { layerId := layer.id, capabilities }, notices)

end WmtsCapabilities

end MapServices
