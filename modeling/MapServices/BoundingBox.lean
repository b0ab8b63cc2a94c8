import MapServices.Json.Decode
import MapServices.Text.Blank

/-!
# Bounding boxes

A geographic box in degrees of longitude and latitude. A box is read from two corners of two numbers
each, and written as a closed polygon. The corners need not be in order, and the numbers need not be
finite, for a box to be kept; `isValid` says whether it covers anything.
-/

namespace MapServices

/-- A box given by its least and greatest coordinates. -/
structure BoundingBox where
  minX : Float
  minY : Float
  maxX : Float
  maxY : Float
deriving Inhabited, Repr

namespace BoundingBox

/-- Why two corners are no box. -/
inductive ReadError where
  /-- A corner has more or fewer than two parts. -/
  | cornerFormat (corner : String)
  /-- A part is no number. -/
  | number (part : String)
deriving DecidableEq, Repr

/-- The text of the error. -/
def ReadError.message : ReadError → String
  | cornerFormat corner => s!"Invalid corner format: {corner}. Expected 'x y'"
  | number part => s!"Invalid number in bounding box: {part}"

/-- The number that a part of a corner is. -/
def readPart (part : List Char) : Except ReadError Float :=
  match Decimal.readFloat? part with
  | some x => .ok x
  | none => .error (.number (String.ofList part))

/-- The two numbers of a corner. -/
def readCorner (corner : String) : Except ReadError (Float × Float) :=
  match Text.words corner.toList with
  | [x, y] => do
    let x ← readPart x
    let y ← readPart y
    return (x, y)
  | _ => .error (.cornerFormat corner)

/-- The box between a lower and an upper corner. -/
def ofCorners (lower upper : String) : Except ReadError BoundingBox := do
  let (minX, minY) ← readCorner lower
  let (maxX, maxY) ← readCorner upper
  return { minX, minY, maxX, maxY }

/-- The extent from west to east. -/
def width (b : BoundingBox) : Float := b.maxX - b.minX

/-- The extent from south to north. -/
def height (b : BoundingBox) : Float := b.maxY - b.minY

/-- Whether all coordinates are finite and the corners are in order. -/
def isValid (b : BoundingBox) : Bool :=
  [b.minX, b.minY, b.maxX, b.maxY].all Float.isFinite && b.minX ≤ b.maxX && b.minY ≤ b.maxY

/-- The box as a polygon, in well-known text: a closed ring, counter-clockwise from the least
corner. -/
def toWkt (b : BoundingBox) : String :=
  let point (x y : Float) := Decimal.plain.render x ++ " " ++ Decimal.plain.render y
  let ring := [point b.minX b.minY, point b.maxX b.minY, point b.maxX b.maxY, point b.minX b.maxY,
    point b.minX b.minY]
  "POLYGON ((" ++ ", ".intercalate ring ++ "))"

/-- The box in stored data. -/
def toJson (b : BoundingBox) : Json :=
  .record [("min_x", .ofFloat b.minX), ("min_y", .ofFloat b.minY), ("max_x", .ofFloat b.maxX),
    ("max_y", .ofFloat b.maxY)]

/-- Reads a box from stored data. -/
def ofJson? (j : Json) : Option BoundingBox := do
  let slots ← j.slots? ["min_x", "min_y", "max_x", "max_y"]
  match slots with
  | [minX, minY, maxX, maxY] =>
    let minX ← minX.required Json.toFloat?
    let minY ← minY.required Json.toFloat?
    let maxX ← maxX.required Json.toFloat?
    let maxY ← maxY.required Json.toFloat?
    return { minX, minY, maxX, maxY }
  | _ => none

end BoundingBox

end MapServices
