import MapServices.Capabilities.Error
import MapServices.Layer.Basic

/-!
# Capabilities of tile services

A tile service publishes a list of layers, and a list of tile matrix sets to which the layers refer.
Every value must be readable: one that is not makes the whole document useless.

* `TileMatrixSet.scaleRange?` is the range of the scale denominators of a set.
-/

namespace MapServices

open Xml (Element)

/-- A layer of a tile service. -/
structure WmtsLayer where
  identifier : String
  title : Option String := none
  styles : List Style := []
  formats : List String := []
  infoFormats : List String := []
  /-- The identifiers of the tile matrix sets in which the layer is available. -/
  links : List String := []
  resourceUrls : List ResourceUrl := []
  /-- The area that the layer covers, in degrees. -/
  box : Option BoundingBox := none
deriving Inhabited

/-- A raster of tiles for one scale. -/
structure TileMatrix where
  identifier : String
  scaleDenominator : Float
  /-- The corner of the first tile, in the reference system of the set. -/
  topLeft : Float × Float
  tileWidth : Nat
  tileHeight : Nat
  matrixWidth : Nat
  matrixHeight : Nat
deriving Inhabited, Repr

/-- The rasters of one reference system. -/
structure TileMatrixSet where
  identifier : String
  supportedCrs : String
  matrices : List TileMatrix
deriving Inhabited, Repr

/-! ### Ranges of scale denominators -/

/-- The lesser of two numbers; something that is no number does not count. -/
def lesser (x y : Float) : Float := if x.isNaN then y else if y < x then y else x

/-- The greater of two numbers; something that is no number does not count. -/
def greater (x y : Float) : Float := if x.isNaN then y else if y > x then y else x

/-- The least range that holds a range, if there is one, and two more numbers. -/
def widen (range? : Option (Float × Float)) (low high : Float) : Float × Float :=
  match range? with
  | none => (low, high)
  | some (least, greatest) => (lesser least low, greater greatest high)

namespace TileMatrixSet

/-- The least and the greatest scale denominator. -/
def scaleRange? (s : TileMatrixSet) : Option (Float × Float) :=
  s.matrices.foldl
    (fun range? m => some (widen range? m.scaleDenominator m.scaleDenominator)) none

end TileMatrixSet

/-! ### Reading layers -/

namespace WmtsLayer

/-- A style of a tile service. -/
def readStyle (e : Element) : Style where
  name := (e.childText? "Identifier").getD ""
  title := e.childText? "Title"
  legendUrl := (e.child? "LegendURL").bind (·.attribute? "href")

/-- A template of the addresses of tiles. -/
def readResourceUrl? (e : Element) : Option ResourceUrl := do
  let format ← e.attribute? "format"
  let resourceType ← e.attribute? "resourceType"
  let template ← e.attribute? "template"
  return { format, resourceType, template }

/-- The area that the layer with the given identifier covers. -/
def readBox? (identifier : String) (e : Element) : Except DocumentError (Option BoundingBox) := do
  match e.child? "WGS84BoundingBox" with
  | none => return none
  | some box =>
    let lower ← box.requiredText "LowerCorner"
    let upper ← box.requiredText "UpperCorner"
    some <$> (BoundingBox.ofCorners lower upper).mapError (.unreadableBox identifier)

/-- The layer that an element describes. -/
def ofElement (e : Element) : Except DocumentError WmtsLayer := do
  match e.childText? "Identifier" with
  | none => .error (.missingElement "Layer/Identifier")
  | some identifier =>
    let box ← readBox? identifier e
    return {
      identifier, box
      title := e.childText? "Title"
      styles := (e.childrenNamed "Style").map readStyle
      formats := e.childTexts "Format"
      infoFormats := e.childTexts "InfoFormat"
      links := (e.childrenNamed "TileMatrixSetLink").filterMap (·.childText? "TileMatrixSet")
      resourceUrls := (e.childrenNamed "ResourceURL").filterMap readResourceUrl? }

end WmtsLayer

/-! ### Reading tile matrix sets -/

namespace TileMatrix

/-- A count of 32 bits in a child that must be there. -/
def readCount (e : Element) (name : String) : Except DocumentError Nat := do
  let value ← e.requiredText name
  match Decimal.readNatBelow? 0x100000000 value.toList with
  | some n => return n
  | none => .error (.invalidNumber name value)

/-- The first two numbers of the corner of the first tile. -/
def readTopLeft (e : Element) : Except DocumentError (Float × Float) := do
  let corner ← e.requiredText "TopLeftCorner"
  match Text.words corner.toList with
  | x :: y :: _ =>
    let x ← Element.readNumber "TopLeftCorner" (String.ofList x)
    let y ← Element.readNumber "TopLeftCorner" (String.ofList y)
    return (x, y)
  | _ => .error (.invalidNumber "TopLeftCorner" corner)

/-- The raster that an element describes. -/
def ofElement (e : Element) : Except DocumentError TileMatrix := do
  let topLeft ← readTopLeft e
  let identifier ← e.requiredText "Identifier"
  let scaleDenominator ← e.requiredNumber "ScaleDenominator"
  let tileWidth ← readCount e "TileWidth"
  let tileHeight ← readCount e "TileHeight"
  let matrixWidth ← readCount e "MatrixWidth"
  let matrixHeight ← readCount e "MatrixHeight"
  return { identifier, scaleDenominator, topLeft, tileWidth, tileHeight, matrixWidth, matrixHeight }

end TileMatrix

namespace TileMatrixSet

/-- The set that an element describes. -/
def ofElement (e : Element) : Except DocumentError TileMatrixSet := do
  match e.childText? "Identifier" with
  | none => .error (.missingElement "TileMatrixSet/Identifier")
  | some identifier =>
    match e.childText? "SupportedCRS" with
    | none => .error (.setWithoutCrs identifier)
    | some supportedCrs =>
      let matrices ← (e.childrenNamed "TileMatrix").mapM TileMatrix.ofElement
      if matrices.isEmpty then .error (.setWithoutMatrices identifier)
      else return { identifier, supportedCrs, matrices }

end TileMatrixSet

/-- What a tile service publishes about itself. -/
structure WmtsCapabilities where
  version : Option String
  layers : List WmtsLayer
  tileMatrixSets : List TileMatrixSet
deriving Inhabited

namespace WmtsCapabilities

/-- The first layer with the given identifier. -/
def find? (c : WmtsCapabilities) (identifier : String) : Option WmtsLayer :=
  c.layers.find? (·.identifier == identifier)

/-- The first tile matrix set with the given identifier. -/
def tileMatrixSet? (c : WmtsCapabilities) (identifier : String) : Option TileMatrixSet :=
  c.tileMatrixSets.find? (·.identifier == identifier)

/-- The name of the root element. -/
def rootName : String := "Capabilities"

/-- Reads the tree of a document. -/
def ofElement (root : Element) : Except DocumentError WmtsCapabilities := do
  if root.name = rootName then
    match root.child? "Contents" with
    | none => .error (.missingElement "Contents")
    | some contents =>
      let layers ← (contents.childrenNamed "Layer").mapM WmtsLayer.ofElement
      let tileMatrixSets ← (contents.childrenNamed "TileMatrixSet").mapM TileMatrixSet.ofElement
      return { version := root.attribute? "version", layers, tileMatrixSets }
  else .error (.unexpectedRoot rootName root.name)

/-- Reads a document. -/
def read (xml : String) : Except DocumentError WmtsCapabilities := do
  ofElement (← Element.ofDocument xml)

end WmtsCapabilities

end MapServices
