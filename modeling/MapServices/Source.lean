import MapServices.Request
import MapServices.Response.Basic

/-!
# Sources of capabilities

A source answers a request with a document or an error, and may give notices besides. What a source
answers depends on the request alone; what changes over time is which source is asked.

* `SourceTable` holds texts and recorded answers by endpoint, and is asked through
  `SourceTable.answer`.
-/

namespace MapServices

/-- A document as it was fetched. -/
structure FetchedCapabilities where
  /-- The address of the request. -/
  url : String
  /-- The name of the encoding in which the document was written. -/
  encoding : String
  /-- The document, without an XML declaration. -/
  data : String
deriving DecidableEq, Inhabited, Repr

/-- The answer to a request, with the notices that it gave rise to. -/
structure SourceAnswer where
  result : Except ServiceError FetchedCapabilities
  notices : List Notice := []

/-- Something that answers requests. -/
abbrev Source := FetchRequest → SourceAnswer

/-- What the checks of an answer make of it. -/
def Response.toAnswer (response : Response) (request : FetchRequest)
    (indexes : Encoding.Indexes) : SourceAnswer :=
  let (checked, notices) := response.check request.serviceType request.version indexes
  { notices
    result := match checked with
      | .ok body => .ok { url := request.address, encoding := body.encoding, data := body.data }
      | .error fault => .error fault.toServiceError }

/-- What a table of sources holds for an endpoint. -/
inductive SourceEntry where
  /-- A document that is accepted as it is. -/
  | document (data : String)
  /-- An answer that has to pass the checks. -/
  | response (response : Response)
deriving DecidableEq, Repr

/-- Texts and recorded answers by endpoint. -/
structure SourceTable where
  entries : SortedMap String SourceEntry := ∅
  /-- The tables with which recorded answers are decoded. -/
  indexes : Encoding.Indexes := {}
deriving Inhabited

namespace SourceTable

/-- The table with an entry for an endpoint, in place of an earlier one. -/
def insert (t : SourceTable) (url : String) (entry : SourceEntry) : SourceTable :=
  { t with entries := t.entries.insert (Endpoint.simplify url) entry }

/-- The table without an entry for an endpoint. -/
def erase (t : SourceTable) (url : String) : SourceTable :=
  { t with entries := t.entries.erase (Endpoint.simplify url) }

/-- The table of a list of entries, in which a later entry replaces an earlier one. -/
def ofList (entries : List (String × SourceEntry)) : SourceTable :=
  entries.foldl (fun t e => t.insert e.1 e.2) {}

/-- Answers a request by the entry for its endpoint. -/
def answer (t : SourceTable) : Source := fun request =>
  match t.entries.get? (Endpoint.simplify request.url) with
  | none => { result := .error (.network ("Connection refused: " ++ request.address)) }
  | some (.document data) =>
    { result := .ok { url := request.address, encoding := "UTF-8", data } }
  | some (.response response) => response.toAnswer request t.indexes

end SourceTable

end MapServices
