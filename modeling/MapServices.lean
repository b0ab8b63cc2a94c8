import MapServices.BoundingBox
import MapServices.Cache
import MapServices.Cache.Calls
import MapServices.Capabilities.Basic
import MapServices.Capabilities.Error
import MapServices.Capabilities.Patch
import MapServices.Capabilities.Wms
import MapServices.Capabilities.Wmts
import MapServices.Crs
import MapServices.Database.Connection
import MapServices.Database.Documents
import MapServices.Database.Layers
import MapServices.Decimal.Basic
import MapServices.Decimal.Layout
import MapServices.Decimal.Shortest
import MapServices.Document
import MapServices.Encoding.Base64
import MapServices.Encoding.Basic
import MapServices.Encoding.Iso2022Jp
import MapServices.Encoding.MultiByte
import MapServices.Encoding.SingleByte
import MapServices.Encoding.Utf16
import MapServices.Encoding.Utf8
import MapServices.Endpoint
import MapServices.Error
import MapServices.FetchConfig
import MapServices.Http
import MapServices.Instant
import MapServices.Json.Basic
import MapServices.Json.Decode
import MapServices.Json.Number
import MapServices.Json.Parser
import MapServices.Key
import MapServices.Layer.Basic
import MapServices.Layer.Json
import MapServices.Notice
import MapServices.Proofs.Cache.Coherence
import MapServices.Proofs.Cache.History
import MapServices.Proofs.Cache.Step
import MapServices.Proofs.Capabilities.Chain
import MapServices.Proofs.Capabilities.Fault
import MapServices.Proofs.Capabilities.Inheritance
import MapServices.Proofs.Capabilities.Listing
import MapServices.Proofs.Capabilities.Locality
import MapServices.Proofs.Capabilities.Scales
import MapServices.Proofs.Capabilities.Styles
import MapServices.Proofs.Capabilities.TileFrame
import MapServices.Proofs.Capabilities.TileLinks
import MapServices.Proofs.Capabilities.TileReading
import MapServices.Proofs.Capabilities.Value
import MapServices.Proofs.Crs
import MapServices.Proofs.Database.Documents
import MapServices.Proofs.Database.Layers
import MapServices.Proofs.Database.Serving
import MapServices.Proofs.Database.Updates
import MapServices.Proofs.Decimal.Order
import MapServices.Proofs.Encoding.Ascii
import MapServices.Proofs.Encoding.MultiByte
import MapServices.Proofs.Encoding.Utf16
import MapServices.Proofs.Encoding.Utf8
import MapServices.Proofs.Endpoint
import MapServices.Proofs.Endpoint.Identity
import MapServices.Proofs.Failure
import MapServices.Proofs.Instant.Calendar
import MapServices.Proofs.Instant.Text
import MapServices.Proofs.Json.Number
import MapServices.Proofs.Json.Record
import MapServices.Proofs.Json.Refusal
import MapServices.Proofs.Json.Text
import MapServices.Proofs.Key
import MapServices.Proofs.Layer.Json
import MapServices.Proofs.Layer.Stored
import MapServices.Proofs.Lists
import MapServices.Proofs.Refresh.AllOrNothing
import MapServices.Proofs.Refresh.Group
import MapServices.Proofs.Refresh.Outcome
import MapServices.Proofs.Refresh.Overlap
import MapServices.Proofs.Refresh.Partition
import MapServices.Proofs.Refresh.Requests
import MapServices.Proofs.Refresh.Rhythm
import MapServices.Proofs.Refresh.Single
import MapServices.Proofs.Refresh.Spelling
import MapServices.Proofs.Refresh.Step
import MapServices.Proofs.Refresh.TileBox
import MapServices.Proofs.Request.Parameters
import MapServices.Proofs.Request.Query
import MapServices.Proofs.Response.Agreement
import MapServices.Proofs.Response.Check
import MapServices.Proofs.Response.Declaration
import MapServices.Proofs.Response.Preface
import MapServices.Proofs.Response.Recovery
import MapServices.Proofs.Response.Root
import MapServices.Proofs.Sorted.Map
import MapServices.Proofs.Sorted.Pointwise
import MapServices.Proofs.Sorted.Set
import MapServices.Proofs.Store.Configuration
import MapServices.Proofs.Store.Documents
import MapServices.Proofs.Store.Holdings
import MapServices.Proofs.Store.Saves
import MapServices.Proofs.Text.Ascii
import MapServices.Proofs.Text.Blank
import MapServices.Proofs.Url.Authority
import MapServices.Proofs.Url.Domain
import MapServices.Proofs.Url.Form
import MapServices.Proofs.Url.Host
import MapServices.Proofs.Url.Ipv4
import MapServices.Proofs.Url.Ipv6
import MapServices.Proofs.Url.Path
import MapServices.Proofs.Url.Percent
import MapServices.Proofs.Url.Place
import MapServices.Proofs.Url.Punycode
import MapServices.Proofs.Url.Split
import MapServices.Proofs.Url.Written
import MapServices.Proofs.Xml.Balance
import MapServices.Proofs.Xml.Declaration
import MapServices.Proofs.Xml.Differs
import MapServices.Proofs.Xml.Entity
import MapServices.Proofs.Xml.Exchange
import MapServices.Proofs.Xml.Interruption
import MapServices.Proofs.Xml.Local
import MapServices.Proofs.Xml.Pieces
import MapServices.Proofs.Xml.Reading
import MapServices.Proofs.Xml.RoundTrip
import MapServices.Proofs.Xml.Spelling
import MapServices.Proofs.Xml.Tree
import MapServices.Proofs.Xml.Violation
import MapServices.Refresh.Calls
import MapServices.Refresh.Group
import MapServices.Refresh.Job
import MapServices.Refresh.Phase
import MapServices.Refresh.Scheduler
import MapServices.Refresh.Single
import MapServices.Request
import MapServices.Response.Basic
import MapServices.Response.Encoding
import MapServices.Response.Root
import MapServices.Samples
import MapServices.Schedule
import MapServices.ServiceType
import MapServices.Sorted.Map
import MapServices.Sorted.Set
import MapServices.Source
import MapServices.Store.Documents
import MapServices.Store.Layers
import MapServices.Text.Ascii
import MapServices.Text.Blank
import MapServices.Text.Printable
import MapServices.Text.Quoted
import MapServices.Unicode.Direction
import MapServices.Unicode.Marks
import MapServices.Unicode.Normal
import MapServices.Unicode.Table
import MapServices.Url.Basic
import MapServices.Url.Domain
import MapServices.Url.Form
import MapServices.Url.Ipv4
import MapServices.Url.Ipv6
import MapServices.Url.Parser
import MapServices.Url.Percent
import MapServices.Url.Preferred
import MapServices.Url.Punycode
import MapServices.World
import MapServices.Xml.Attribute
import MapServices.Xml.Element
import MapServices.Xml.Entity
import MapServices.Xml.Event
import MapServices.Xml.Markup
import MapServices.Xml.Namespace
