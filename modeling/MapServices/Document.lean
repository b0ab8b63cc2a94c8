import MapServices.Key

/-!
# Capabilities documents

What a service published about itself, with the endpoint, type and version it was asked for. A store
keeps one document per key.
-/

namespace MapServices

/-- A capabilities document. -/
structure CapabilitiesDocument where
  /-- The number under which a store keeps the document. -/
  id : Option Int := none
  url : String
  serviceType : ServiceType
  version : Option String
  /-- The text of the document, without an XML declaration. -/
  data : String
  createdAt : Instant
  updatedAt : Instant
deriving DecidableEq, Inhabited

namespace CapabilitiesDocument

/-- A document that no store has kept yet. -/
def ofKey (key : ServiceKey) (data : String) (now : Instant) : CapabilitiesDocument where
  url := key.url
  serviceType := key.serviceType
  version := normalizeVersion key.version
  data := data
  createdAt := now
  updatedAt := now

/-- What the document is known by. -/
def key (d : CapabilitiesDocument) : ServiceKey := .ofParts d.url d.serviceType d.version

/-- Whether a store keeps the document. -/
def isSaved (d : CapabilitiesDocument) : Bool := d.id.isSome

/-- The document in stored data. -/
def toJson (d : CapabilitiesDocument) : Json :=
  .record [
    ("id", .ofOption .ofInt d.id),
    ("url", .ofString d.url),
    ("service_type", d.serviceType.toJson),
    ("version", .ofOption .ofString d.version),
    ("data", .ofString d.data),
    ("created_at", .ofInstant d.createdAt),
    ("updated_at", .ofInstant d.updatedAt)]

/-- Reads a document from stored data. -/
def ofJson? (j : Json) : Option CapabilitiesDocument := do
  let slots ← j.slots? ["id", "url", "service_type", "version", "data", "created_at", "updated_at"]
  match slots with
  | [id, url, serviceType, version, data, createdAt, updatedAt] =>
    let id ← id.optional Json.toInt?
    let url ← url.required Json.toText?
    let serviceType ← serviceType.required ServiceType.ofJson?
    let version ← version.optional Json.toText?
    let data ← data.required Json.toText?
    let createdAt ← createdAt.required Json.toInstant?
    let updatedAt ← updatedAt.required Json.toInstant?
    return { id, url, serviceType, version, data, createdAt, updatedAt }
  | _ => none

end CapabilitiesDocument

end MapServices
