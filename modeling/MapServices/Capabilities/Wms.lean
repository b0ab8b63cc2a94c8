import MapServices.Capabilities.Error
import MapServices.Layer.Basic

/-!
# Capabilities of map services

A map service publishes a tree of layers, in which a layer inherits from the layer around it:

* styles and reference systems are added to those of the parent;
* scales and the bounding box replace those of the parent as a whole if the layer gives any;
* whether the layer can be queried is what it says itself, or else what its parent says.

A value that cannot be read spoils the scales or the box of its own layer and of the layers that
inherit them, and nothing else: it is kept in place of the value and shows when the layer is used.

* `LayerTree.subtrees` lists a tree with parents before children, and `WmsCapabilities.find?`
  looks a name up.
-/

namespace MapServices

/-- The scale denominators between which a layer is visible. -/
structure ScaleRange where
  least? : Option Float := none
  greatest? : Option Float := none
deriving Inhabited, Repr

namespace ScaleRange

/-- Whether the range has no bound. -/
def isEmpty (r : ScaleRange) : Bool := r.least?.isNone && r.greatest?.isNone

end ScaleRange

/-- A layer of a map service with all that it inherits. -/
structure WmsLayer where
  /-- The name; a layer without one only groups other layers. -/
  name : Option String := none
  title : Option String := none
  queryable : Bool := false
  crs : NameSet := ∅
  styles : List Style := []
  /-- The visible scales, or why they cannot be read. -/
  scales : Except DocumentError ScaleRange := .ok {}
  /-- The area that the layer covers, or why it cannot be read. -/
  box : Except DocumentError (Option BoundingBox) := .ok none
deriving Inhabited

namespace WmsLayer

/-- The least scale denominator at which the layer is visible. -/
def minScale (l : WmsLayer) : Option Float := l.scales.toOption.bind ScaleRange.least?

/-- The greatest scale denominator at which the layer is visible. -/
def maxScale (l : WmsLayer) : Option Float := l.scales.toOption.bind ScaleRange.greatest?

/-- The area that the layer covers. -/
def boundingBox (l : WmsLayer) : Option BoundingBox := l.box.toOption.join

/-- Fails if the scales or the box cannot be read. -/
def check (l : WmsLayer) : Except DocumentError Unit := do
  let _ ← l.scales
  let _ ← l.box

/-! ### Reading one layer -/

open Xml (Element)

/-- The side of a pixel in metres that scale denominators are based on. -/
def pixelSize : Float := 0.00028

/-- The square root of two. -/
def diagonal : Float := 1.4142135623730951

/-- The scale denominator at which the diagonal of a pixel has the given length in metres. -/
def denominatorOfDiagonal (length : Float) : Float := length / diagonal / pixelSize

/-- A bound that an older document gives as the length of the diagonal of a pixel. -/
def hintBound? (hint : Element) (name : String) : Except DocumentError (Option Float) := do
  let length? ← (hint.attribute? name).mapM (Element.readNumber "ScaleHint")
  return length?.map denominatorOfDiagonal

/-- The scales that an element gives itself. -/
def ownScales (e : Element) : Except DocumentError ScaleRange := do
  let least? ← e.childNumber? "MinScaleDenominator"
  let greatest? ← e.childNumber? "MaxScaleDenominator"
  if least?.isSome || greatest?.isSome then return { least?, greatest? }
  match e.child? "ScaleHint" with
  | none => return {}
  | some hint =>
    let least? ← hintBound? hint "min"
    let greatest? ← hintBound? hint "max"
    return { least?, greatest? }

/-- The box that an element gives itself, in its newer form. -/
def geographicBox (e : Element) : Except DocumentError BoundingBox := do
  let minX ← e.requiredNumber "westBoundLongitude"
  let minY ← e.requiredNumber "southBoundLatitude"
  let maxX ← e.requiredNumber "eastBoundLongitude"
  let maxY ← e.requiredNumber "northBoundLatitude"
  return { minX, minY, maxX, maxY }

/-- The box that an element gives itself, in its older form. -/
def latLonBox (e : Element) : Except DocumentError BoundingBox := do
  let minX ← coordinate "minx"
  let minY ← coordinate "miny"
  let maxX ← coordinate "maxx"
  let maxY ← coordinate "maxy"
  return { minX, minY, maxX, maxY }
where
  coordinate (name : String) : Except DocumentError Float :=
    match e.attribute? name with
    | some value => Element.readNumber "LatLonBoundingBox" value
    | none => .error (.missingElement "LatLonBoundingBox")

/-- The box that an element gives itself. -/
def ownBox (e : Element) : Except DocumentError (Option BoundingBox) :=
  match e.child? "EX_GeographicBoundingBox", e.child? "LatLonBoundingBox" with
  | some box, _ => some <$> geographicBox box
  | none, some box => some <$> latLonBox box
  | none, none => .ok none

/-- The reference systems that an element gives itself. -/
def ownCrs (e : Element) : List String :=
  (e.childTexts "CRS" ++ e.childTexts "SRS").flatMap fun text =>
    (Text.words text.toList).map String.ofList

/-- A style of a map service. -/
def readStyle (e : Element) : Style where
  name := (e.childText? "Name").getD ""
  title := e.childText? "Title"
  legendUrl := (e.path? ["LegendURL", "OnlineResource"]).bind (·.attribute? "href")

/-- The styles that an element gives itself. -/
def ownStyles (e : Element) : List Style := (e.childrenNamed "Style").map readStyle

/-- Adds a style, in place of one with the same name. -/
def putStyle (styles : List Style) (style : Style) : List Style :=
  styles.filter (·.name ≠ style.name) ++ [style]

/-- Whether an element says of itself that it can be queried, if it says anything. -/
def ownQueryable? (e : Element) : Option Bool :=
  (e.attribute? "queryable").map fun value => value == "1" || Text.sameIgnoringCase value "true"

/-- The scales of a layer: its own ones, unless it gives none. -/
def inheritScales (own inherited : Except DocumentError ScaleRange) :
    Except DocumentError ScaleRange :=
  match own with
  | .ok range => if range.isEmpty then inherited else own
  | .error _ => own

/-- The box of a layer: its own one, unless it gives none. -/
def inheritBox (own inherited : Except DocumentError (Option BoundingBox)) :
    Except DocumentError (Option BoundingBox) :=
  match own with
  | .ok none => inherited
  | _ => own

/-- The layer that an element describes inside the layer `parent`. -/
def ofElement (parent : WmsLayer) (e : Element) : WmsLayer where
  name := e.childText? "Name"
  title := e.childText? "Title"
  queryable := (ownQueryable? e).getD parent.queryable
  crs := (ownCrs e).foldl NameSet.insert parent.crs
  styles := (ownStyles e).foldl putStyle parent.styles
  scales := inheritScales (ownScales e) parent.scales
  box := inheritBox (ownBox e) parent.box

end WmsLayer

/-- A layer with the layers inside it. -/
inductive LayerTree where
  | node (layer : WmsLayer) (children : List LayerTree)
deriving Inhabited

namespace LayerTree

/-- The outermost layer. -/
def layer : LayerTree → WmsLayer
  | node l _ => l

/-- The trees directly inside the outermost layer. -/
def children : LayerTree → List LayerTree
  | node _ ts => ts

mutual

/-- The tree and all trees inside it, parents before children. -/
def subtrees : LayerTree → List LayerTree
  | node l ts => node l ts :: subtreesOf ts

/-- The trees of a list and all trees inside them, parents before children. -/
def subtreesOf : List LayerTree → List LayerTree
  | [] => []
  | t :: ts => t.subtrees ++ subtreesOf ts

end

mutual

/-- The first layer with the given name, going into a layer before going on to the next. -/
def find? (name : String) : LayerTree → Option WmsLayer
  | node l ts => if l.name = some name then some l else findIn? name ts

/-- The first layer with the given name in a list of trees. -/
def findIn? (name : String) : List LayerTree → Option WmsLayer
  | [] => none
  | t :: ts => (t.find? name).or (findIn? name ts)

end

mutual

/-- The tree of layers that an element describes inside the layer `parent`. -/
def ofElement (parent : WmsLayer) : Xml.Element → LayerTree
  | ⟨name, attributes, text, children⟩ =>
    let l := WmsLayer.ofElement parent ⟨name, attributes, text, children⟩
    node l (ofChildren l children)

/-- The trees of those elements of a list that describe layers. -/
def ofChildren (parent : WmsLayer) : List Xml.Element → List LayerTree
  | [] => []
  | e :: es =>
    if e.name = "Layer" then ofElement parent e :: ofChildren parent es else ofChildren parent es

end

end LayerTree

/-- What a map service publishes about itself. -/
structure WmsCapabilities where
  version : Option String
  /-- The formats of maps. -/
  formats : List String
  /-- The formats of descriptions of features. -/
  infoFormats : List String
  /-- The outermost layers. -/
  layers : List LayerTree
deriving Inhabited

namespace WmsCapabilities

/-- The first layer with the given name. -/
def find? (c : WmsCapabilities) (name : String) : Option WmsLayer := LayerTree.findIn? name c.layers

/-- All layers with the layers inside them, parents before children. -/
def subtrees (c : WmsCapabilities) : List LayerTree := LayerTree.subtreesOf c.layers

/-- The names that the root element has in newer and in older documents. -/
def rootNames : List String := ["WMS_Capabilities", "WMT_MS_Capabilities"]

/-- The formats that the service offers for a kind of request. -/
def offeredFormats (capability : Xml.Element) (request : String) : List String :=
  ((capability.path? ["Request", request]).map (·.childTexts "Format")).getD []

/-- Reads the tree of a document. -/
def ofElement (root : Xml.Element) : Except DocumentError WmsCapabilities :=
  if root.name ∈ rootNames then
    match root.child? "Capability" with
    | none => .error (.missingElement "Capability")
    | some capability => .ok {
        version := root.attribute? "version"
        formats := offeredFormats capability "GetMap"
        infoFormats := offeredFormats capability "GetFeatureInfo"
        layers := LayerTree.ofChildren {} capability.children }
  else .error (.unexpectedRoot (" or ".intercalate rootNames) root.name)

/-- Reads a document. -/
def read (xml : String) : Except DocumentError WmsCapabilities := do
  ofElement (← Xml.Element.ofDocument xml)

end WmsCapabilities

end MapServices
