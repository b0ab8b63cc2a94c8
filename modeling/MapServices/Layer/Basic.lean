import MapServices.Instant
import MapServices.ServiceType
import MapServices.Text.Quoted

/-!
# Layers

A configured layer names a layer of a web service: where the service is, how to log in, and the
name of the layer there. Everything else about the layer is derived from the capabilities that the
service publishes, and is kept in a value of its own, so that a refresh replaces the derived
properties as a whole and touches nothing that was configured.
-/

namespace MapServices

/-- A user name and a password for a protected service. -/
structure Credentials where
  username : String
  password : String
deriving DecidableEq, Inhabited, Repr

namespace Credentials

/-- The credentials of two stored columns. Without a user name access is anonymous. -/
def ofColumns? (username password : Option String) : Option Credentials :=
  match username with
  | some user => if user.isEmpty then none else some ⟨user, password.getD ""⟩
  | none => none

/-- A description for log lines, without the password. -/
def describe (c : Credentials) : String :=
  "Credentials \x7b username: " ++ String.ofList (Text.quoted c.username.toList) ++
    ", password: \"***\" \x7d"

end Credentials

/-- A style in which a layer can be drawn. -/
structure Style where
  name : String
  title : Option String := none
  legendUrl : Option String := none
deriving DecidableEq, Inhabited, Repr

/-- A template of the addresses of tiles. -/
structure ResourceUrl where
  format : String
  resourceType : String
  template : String
deriving DecidableEq, Inhabited, Repr

/-- The properties of a layer that are derived from the capabilities of its service. -/
structure LayerCapabilities where
  styles : List Style := []
  /-- Formats of images or tiles. -/
  formats : List String := []
  /-- Formats in which the features at a point can be asked for. -/
  infoFormats : List String := []
  queryable : Bool := false
  /-- The least scale denominator at which the layer is visible. -/
  minScale : Option Float := none
  /-- The greatest scale denominator at which the layer is visible. -/
  maxScale : Option Float := none
  /-- The reference systems in which the layer is available. -/
  crs : NameSet := ∅
  /-- The area that the layer covers, in well-known text. -/
  geometry : Option String := none
  /-- The tile matrix set to use for a reference system. -/
  tileMatrixSets : SortedMap String String := ∅
  resourceUrls : List ResourceUrl := []
  /-- The version of the service that published the properties. -/
  version : Option String := none
deriving Inhabited

namespace LayerCapabilities

/-- Whether the layer is available in a reference system, whatever the case of its letters. -/
def supportsCrs (c : LayerCapabilities) (name : String) : Bool :=
  c.crs.toList.any fun crs => Text.sameIgnoringCase crs name

/-- The first style with the given name. -/
def style? (c : LayerCapabilities) (name : String) : Option Style :=
  c.styles.find? (·.name == name)

end LayerCapabilities

/-- A configured layer of a web service. -/
structure Layer where
  id : Int
  /-- The name of the layer in the capabilities of the service. -/
  name : String
  /-- The address of the service as it was configured. -/
  url : String
  serviceType : ServiceType
  /-- The version to ask for; without one the service decides. -/
  version : Option String := none
  credentials : Option Credentials := none
  /-- What is known from the capabilities of the service. -/
  capabilities : LayerCapabilities := {}
  /-- When the capabilities were last derived. -/
  lastUpdated : Option Instant := none
deriving Inhabited

/-- New derived properties for one layer. -/
structure LayerPatch where
  layerId : Int
  capabilities : LayerCapabilities
deriving Inhabited

namespace Layer

/-- The layer with the derived properties replaced. A patch for another layer is refused. -/
def withPatch (l : Layer) (patch : LayerPatch) (now : Instant) : Except ServiceError Layer :=
  if patch.layerId = l.id then
    .ok { l with capabilities := patch.capabilities, lastUpdated := some now }
  else .error (.config s!"Patch for layer {patch.layerId} applied to layer {l.id}")

end Layer

end MapServices
