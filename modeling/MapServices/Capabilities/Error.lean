import MapServices.BoundingBox
import MapServices.Error
import MapServices.Xml.Element

/-!
# Errors of capabilities documents

Why a text is no capabilities document, or a document does not tell what is asked of it.
-/

namespace MapServices

/-- Why a capabilities document is of no use. -/
inductive DocumentError where
  /-- The text is no XML. -/
  | malformed (error : Xml.TreeError)
  /-- The root element belongs to another kind of document. -/
  | unexpectedRoot (expected actual : String)
  /-- An element that must be there is missing or empty. -/
  | missingElement (name : String)
  /-- A value is no number. -/
  | invalidNumber (element value : String)
  /-- The box of a layer cannot be read. -/
  | unreadableBox (layer : String) (error : BoundingBox.ReadError)
  /-- A tile matrix set names no reference system. -/
  | setWithoutCrs (set : String)
  /-- A tile matrix set has no tile matrices. -/
  | setWithoutMatrices (set : String)
  /-- A layer links a tile matrix set that is not defined. -/
  | unknownSet (layer set : String)
  /-- No layer has the name. -/
  | layerNotFound (name : String)
deriving DecidableEq, Repr

namespace DocumentError

/-- The error of a text that has no tree. A text without any element lacks the root element. -/
def ofTreeError : Xml.TreeError → DocumentError
  | .noRoot => missingElement "root element"
  | e => malformed e

/-- The text of the error. -/
def message : DocumentError → String
  | malformed e => "Malformed XML: " ++ e.message
  | unexpectedRoot expected actual =>
    "Unexpected root element: expected " ++ expected ++ ", got " ++ actual
  | missingElement name => "Missing required element: " ++ name
  | invalidNumber element value => "Invalid number in " ++ element ++ ": " ++ value
  | unreadableBox layer e => "Invalid document: layer " ++ layer ++ ": " ++ e.message
  | setWithoutCrs set => "Invalid document: tile matrix set " ++ set ++ " has no SupportedCRS"
  | setWithoutMatrices set => "Invalid document: tile matrix set " ++ set ++ " has no tile matrices"
  | unknownSet layer set =>
    "Invalid document: layer " ++ layer ++ " links unknown tile matrix set " ++ set
  | layerNotFound name => "Layer not found: " ++ name

/-- The error of the operation that needed the document. -/
def toServiceError : DocumentError → ServiceError
  | layerNotFound name => .layerNotFound name
  | e => .parse e.message

end DocumentError

namespace Xml.Element

/-- The tree of a document, as the reader of capabilities sees it. -/
def ofDocument (s : String) : Except DocumentError Element :=
  (ofString s).mapError DocumentError.ofTreeError

/-- The number that a value found in `element` is. -/
def readNumber (element value : String) : Except DocumentError Float :=
  match Decimal.readFloat? (Text.trim value.toList) with
  | some x => .ok x
  | none => .error (.invalidNumber element value)

/-- The text of a child that must be there. -/
def requiredText (e : Element) (name : String) : Except DocumentError String :=
  match e.childText? name with
  | some text => .ok text
  | none => .error (.missingElement name)

/-- The number in a child, if the child is there. -/
def childNumber? (e : Element) (name : String) : Except DocumentError (Option Float) :=
  (e.childText? name).mapM (readNumber name)

/-- The number in a child that must be there. -/
def requiredNumber (e : Element) (name : String) : Except DocumentError Float := do
  readNumber name (← e.requiredText name)

end Xml.Element

end MapServices
