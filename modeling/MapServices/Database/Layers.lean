import MapServices.Layer.Json
import MapServices.Notice

/-!
# A store of layers in a database

The table holds the configured layers by number. Rows of other types than those of web services are
passed over. The derived properties of a layer are kept as stored data; where these make no sense,
the layer has none. But stored data that cannot even be taken up as they are, in a row of whatever
type, keep all layers from being listed.

* `LayerTable.all` and `LayerTable.update` are the operations of a store of layers.
-/

namespace MapServices

/-- A row of the table of layers. -/
structure LayerRow where
  layerType : String
  name : String
  url : String
  version : Option String := none
  username : Option String := none
  password : Option String := none
  /-- The derived properties, as stored data. The database keeps no field of an object twice. -/
  capabilities : Option Json := none
  lastUpdated : Option Instant := none
deriving Inhabited

namespace LayerRow

/-- Why the stored data of a row cannot be taken up. -/
def refusal? (r : LayerRow) : Option Json.Refusal := r.capabilities.bind Json.refusal?

/-- The derived properties in a row, and a notice if they make no sense. -/
def readCapabilities (id : Int) (r : LayerRow) : LayerCapabilities × List Notice :=
  match r.capabilities with
  | none => ({}, [])
  | some stored =>
    match LayerCapabilities.ofJson? stored with
    | some capabilities => (capabilities, [])
    | none => ({}, [.unreadableCapabilities id])

/-- The layer that a row of a known type holds. -/
def toLayer (id : Int) (serviceType : ServiceType) (r : LayerRow) : Layer where
  id := id
  name := r.name
  url := r.url
  serviceType := serviceType
  version := r.version
  credentials := Credentials.ofColumns? r.username r.password
  capabilities := (r.readCapabilities id).1
  lastUpdated := r.lastUpdated

/-- The layer that a row holds, if its type is known. -/
def layer? (id : Int) (r : LayerRow) : Option (Layer × List Notice) :=
  match ServiceType.ofName r.layerType with
  | .ok serviceType => some (r.toLayer id serviceType, (r.readCapabilities id).2)
  | .error _ => none

/-- The row with the derived properties of a layer. -/
def write (r : LayerRow) (l : Layer) : LayerRow :=
  { r with capabilities := some l.capabilities.toJson, lastUpdated := l.lastUpdated }

end LayerRow

/-- The table of layers. -/
structure LayerTable where
  rows : SortedMap Int LayerRow := ∅
  /-- The line and the column at which the stored data of a row are given up. They are counted in
  the text that the database makes of the data. -/
  place : LayerRow → Nat × Nat := fun _ => (1, 1)
deriving Inhabited

namespace LayerTable

/-- The layers that the rows hold, each with a notice if its derived properties make no sense. -/
def held (t : LayerTable) : List (Layer × List Notice) :=
  t.rows.entries.filterMap fun (id, row) => row.layer? id

/-- The layers that the rows hold in the order of their numbers. -/
def layers (t : LayerTable) : List Layer := t.held.map Prod.fst

/-- The first row whose stored data cannot be taken up. -/
def refused? (t : LayerTable) : Option (LayerRow × Json.Refusal) :=
  t.rows.entries.findSome? fun (_, row) => row.refusal?.map (row, ·)

/-- The error of listing layers when the stored data of a row cannot be taken up. -/
def refusalError (t : LayerTable) (row : LayerRow) (refusal : Json.Refusal) : ServiceError :=
  let (line, column) := t.place row
  .database ("Query failed: error occurred while decoding column \"capabilities\": " ++
    refusal.message ++ s!" at line {line} column {column}")

/-- All layers in the order of their numbers, with a notice for each whose derived properties make
no sense. -/
def all (t : LayerTable) : Except ServiceError (List Layer × List Notice) :=
  match t.refused? with
  | some (row, refusal) => .error (t.refusalError row refusal)
  | none => .ok (t.layers, t.held.flatMap Prod.snd)

/-- Writes the derived properties of a layer. -/
def update (t : LayerTable) (l : Layer) : Except ServiceError LayerTable :=
  match t.rows.get? l.id with
  | none => .error (.database s!"Layer {l.id} does not exist")
  | some row => .ok { t with rows := t.rows.insert l.id (row.write l) }

end LayerTable

end MapServices
