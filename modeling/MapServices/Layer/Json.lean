import MapServices.Layer.Basic

/-!
# Layers in stored data

The JSON form of layers and of everything they hold. Derived properties that are missing from stored
data have their default value, so data of an older form can still be read.
-/

namespace MapServices

namespace Json

/-- A point in time. -/
def ofInstant (t : Instant) : Json := .ofString t.print

/-- The point in time that a value is. -/
def toInstant? (j : Json) : Option Instant := j.toText?.bind Instant.read?

/-- A table of strings. -/
def ofNameMap (m : SortedMap String String) : Json :=
  .record (m.entries.map fun e => (e.1, .ofString e.2))

end Json

namespace Credentials

/-- The credentials in stored data. -/
def toJson (c : Credentials) : Json :=
  .record [("username", .ofString c.username), ("password", .ofString c.password)]

/-- Reads credentials from stored data. -/
def ofJson? (j : Json) : Option Credentials := do
  match ← j.slots? ["username", "password"] with
  | [username, password] =>
    let username ← username.required Json.toText?
    let password ← password.required Json.toText?
    return { username, password }
  | _ => none

end Credentials

namespace Style

/-- A style in stored data. -/
def toJson (s : Style) : Json :=
  .record [("name", .ofString s.name), ("title", .ofOption .ofString s.title),
    ("legend_url", .ofOption .ofString s.legendUrl)]

/-- Reads a style from stored data. -/
def ofJson? (j : Json) : Option Style := do
  match ← j.slots? ["name", "title", "legend_url"] with
  | [name, title, legendUrl] =>
    let name ← name.required Json.toText?
    let title ← title.optional Json.toText?
    let legendUrl ← legendUrl.optional Json.toText?
    return { name, title, legendUrl }
  | _ => none

end Style

namespace ResourceUrl

/-- A template in stored data. -/
def toJson (r : ResourceUrl) : Json :=
  .record [("format", .ofString r.format), ("resource_type", .ofString r.resourceType),
    ("template", .ofString r.template)]

/-- Reads a template from stored data. -/
def ofJson? (j : Json) : Option ResourceUrl := do
  match ← j.slots? ["format", "resource_type", "template"] with
  | [format, resourceType, template] =>
    let format ← format.required Json.toText?
    let resourceType ← resourceType.required Json.toText?
    let template ← template.required Json.toText?
    return { format, resourceType, template }
  | _ => none

end ResourceUrl

namespace LayerCapabilities

/-- The derived properties in stored data. -/
def toJson (c : LayerCapabilities) : Json :=
  .record [
    ("styles", .array (c.styles.map Style.toJson)),
    ("formats", .ofStrings c.formats),
    ("info_formats", .ofStrings c.infoFormats),
    ("queryable", .bool c.queryable),
    ("min_scale", .ofOption .ofFloat c.minScale),
    ("max_scale", .ofOption .ofFloat c.maxScale),
    ("crs", .ofStrings c.crs.toList),
    ("geometry", .ofOption .ofString c.geometry),
    ("tile_matrix_sets", .ofNameMap c.tileMatrixSets),
    ("resource_urls", .array (c.resourceUrls.map ResourceUrl.toJson)),
    ("version", .ofOption .ofString c.version)]

/-- Reads derived properties from stored data. -/
def ofJson? (j : Json) : Option LayerCapabilities := do
  let slots ← j.slots? ["styles", "formats", "info_formats", "queryable", "min_scale", "max_scale",
    "crs", "geometry", "tile_matrix_sets", "resource_urls", "version"]
  match slots with
  | [styles, formats, infoFormats, queryable, minScale, maxScale, crs, geometry, tileMatrixSets,
      resourceUrls, version] =>
    let styles ← styles.orDefault [] (Json.toList? Style.ofJson?)
    let formats ← formats.orDefault [] (Json.toList? Json.toText?)
    let infoFormats ← infoFormats.orDefault [] (Json.toList? Json.toText?)
    let queryable ← queryable.orDefault false Json.toBool?
    let minScale ← minScale.orDefault none (Json.toOption? Json.toFloat?)
    let maxScale ← maxScale.orDefault none (Json.toOption? Json.toFloat?)
    let crs ← crs.orDefault ∅ Json.toNameSet?
    let geometry ← geometry.orDefault none (Json.toOption? Json.toText?)
    let tileMatrixSets ← tileMatrixSets.orDefault ∅ Json.toNameMap?
    let resourceUrls ← resourceUrls.orDefault [] (Json.toList? ResourceUrl.ofJson?)
    let version ← version.orDefault none (Json.toOption? Json.toText?)
    return {
      styles, formats, infoFormats, queryable, minScale, maxScale, crs, geometry, tileMatrixSets,
      resourceUrls, version }
  | _ => none

end LayerCapabilities

namespace Layer

/-- A layer in stored data. -/
def toJson (l : Layer) : Json :=
  .record [
    ("id", .ofInt l.id),
    ("name", .ofString l.name),
    ("url", .ofString l.url),
    ("service_type", l.serviceType.toJson),
    ("version", .ofOption .ofString l.version),
    ("credentials", .ofOption Credentials.toJson l.credentials),
    ("capabilities", l.capabilities.toJson),
    ("capabilities_last_updated", .ofOption .ofInstant l.lastUpdated)]

/-- Reads a layer from stored data. -/
def ofJson? (j : Json) : Option Layer := do
  let slots ← j.slots? ["id", "name", "url", "service_type", "version", "credentials",
    "capabilities", "capabilities_last_updated"]
  match slots with
  | [id, name, url, serviceType, version, credentials, capabilities, lastUpdated] =>
    let id ← id.required Json.toInt?
    let name ← name.required Json.toText?
    let url ← url.required Json.toText?
    let serviceType ← serviceType.required ServiceType.ofJson?
    let version ← version.optional Json.toText?
    let credentials ← credentials.orDefault none (Json.toOption? Credentials.ofJson?)
    let capabilities ← capabilities.orDefault {} LayerCapabilities.ofJson?
    let lastUpdated ← lastUpdated.orDefault none (Json.toOption? Json.toInstant?)
    return { id, name, url, serviceType, version, credentials, capabilities, lastUpdated }
  | _ => none

end Layer

end MapServices
