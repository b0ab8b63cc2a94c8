import MapServices.Document

/-!
# A store of documents in a database

The table holds one row per name of a layer type, endpoint and version, where the empty text
stands for no version. Saving a document writes a new row with a number of its own, or replaces
the text and the time of the last change in the row that is there.

* `DocumentTable.find` and `DocumentTable.save` are the operations of a store of documents.
-/

namespace MapServices

/-- A row of the table of documents. -/
structure DocumentRow where
  id : Int
  layerType : String
  url : String
  /-- The version, or the empty text for none. -/
  version : String
  data : String
  created : Instant
  updated : Instant
deriving DecidableEq, Inhabited, Repr

namespace DocumentRow

/-- The document that a row holds. -/
def toDocument (r : DocumentRow) : Except ServiceError CapabilitiesDocument :=
  match ServiceType.ofName r.layerType with
  | .error _ => .error (.database ("Unknown layertype '" ++ r.layerType ++
      "' in capabilities_cache row " ++ toString r.id))
  | .ok serviceType => .ok {
      serviceType
      id := some r.id
      url := r.url
      version := if r.version.isEmpty then none else some r.version
      data := r.data
      createdAt := r.created
      updatedAt := r.updated }

/-- Whether the row is the one with the given type, endpoint and version. -/
def isFor (layerType url version : String) (r : DocumentRow) : Bool :=
  r.layerType == layerType && r.url == url && r.version == version

end DocumentRow

/-- The table of documents. -/
structure DocumentTable where
  rows : List DocumentRow := []
  /-- The last number that was given to a row. -/
  lastId : Int := 0
deriving Inhabited

namespace DocumentTable

/-- The row with the given type, endpoint and version. -/
def row? (t : DocumentTable) (layerType url version : String) : Option DocumentRow :=
  t.rows.find? (·.isFor layerType url version)

/-- The text that stands for a version in the table. -/
def versionColumn (version : Option String) : String := version.getD ""

/-- The document with the given key. -/
def find (t : DocumentTable) (key : ServiceKey) :
    Except ServiceError (Option CapabilitiesDocument) :=
  (t.row? key.serviceType.layerType key.url (versionColumn key.version)).mapM DocumentRow.toDocument

/-- The row that a document is saved in. -/
def rowFor (t : DocumentTable) (d : CapabilitiesDocument) : DocumentRow :=
  let version := versionColumn d.version
  match t.row? d.serviceType.layerType d.url version with
  | some old => { old with data := d.data, updated := d.updatedAt }
  | none => {
      version
      id := t.lastId + 1
      layerType := d.serviceType.layerType
      url := d.url
      data := d.data
      created := d.createdAt
      updated := d.updatedAt }

/-- The table with a document in its row. -/
def put (t : DocumentTable) (d : CapabilitiesDocument) : DocumentTable :=
  let layerType := d.serviceType.layerType
  let version := versionColumn d.version
  let row := t.rowFor d
  if (t.row? layerType d.url version).isSome then
    { t with rows := t.rows.map fun r => if r.isFor layerType d.url version then row else r }
  else { t with rows := t.rows ++ [row], lastId := t.lastId + 1 }

/-- Saves a document and gives the form in which it is kept. -/
def save (t : DocumentTable) (d : CapabilitiesDocument) :
    Except ServiceError CapabilitiesDocument × DocumentTable :=
  ((t.rowFor d).toDocument, t.put d)

end DocumentTable

end MapServices
