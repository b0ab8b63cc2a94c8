import MapServices.Text.Blank
import MapServices.Text.Ascii

/-!
# Codes of coordinate reference systems

One reference system has many spellings: `epsg:3067`, `urn:ogc:def:crs:EPSG::3067` and
`http://www.opengis.net/def/crs/EPSG/0/3067` all name the system 3067 of the EPSG registry.
`Crs.normalize` writes such a code as `EPSG:3067` and leaves all other names alone.
-/

namespace MapServices.Crs

/-- Whether the character separates the parts of a name. -/
def isSeparator (c : Char) : Bool := c = ':' || c = '/'

/-- The last part of a name that is not empty. -/
def lastPart? (s : List Char) : Option (List Char) :=
  ((s.splitOnP isSeparator).filter (!·.isEmpty)).getLast?

/-- The number in the EPSG registry that a name ends with, if the name speaks of the registry. -/
def epsgCode? (s : List Char) : Option (List Char) :=
  if Text.occursIn ['E', 'P', 'S', 'G'] (Text.upper s) then
    (lastPart? s).filter fun part => part.all Char.isDigit
  else none

/-- The one spelling of a name with a registry code, and any other name without the white space at
its ends. -/
def normalizeChars (s : List Char) : List Char :=
  let name := Text.trim s
  match epsgCode? name with
  | some code => ['E', 'P', 'S', 'G', ':'] ++ code
  | none => name

/-- The one spelling of a name with a registry code, and any other name without the white space at
its ends. -/
def normalize (s : String) : String := String.ofList (normalizeChars s.toList)

end MapServices.Crs
