import MapServices.Cache
import MapServices.Capabilities.Basic

/-!
# Refreshing one layer

A layer is refreshed by itself when it is saved. Its document is fetched and read, and only then
put into the store. A refresh that fails leaves the layer as it was and attaches a warning to it,
so that saving the layer can go on; a store that does not take the document does not spoil the
refresh.
-/

namespace MapServices

/-- What a refresh made of a layer. -/
structure LayerRefresh where
  layer : Layer
  updated : Bool
  /-- A warning for the user who saves the layer. -/
  warning : Option String
deriving Inhabited

namespace LayerRefresh

/-- The warning that the capabilities of a layer could not be read. -/
def readFailure : String := "metadataReadFailure"

/-- The layer with the properties that its document gives. -/
def readLayer (l : Layer) (data : String) (w : World) : Except ServiceError Layer × World :=
  match ServiceCapabilities.read l.serviceType data with
  | .error e => (.error e.toServiceError, w)
  | .ok c =>
    let (result, notices) := c.refreshed l w.now
    (result, w.report notices)

/-- Puts the document of a layer into the store. -/
def cacheDocument (l : Layer) (data : String) (w : World) : World :=
  match Cache.saveFetched l data w with
  | (.ok _, w) => w
  | (.error e, w) => w.report [.documentNotCached l.id e]

/-- Fetches and reads the document of a layer. -/
def tryRun (source : Source) (l : Layer) (w : World) : Except ServiceError Layer × World :=
  match w.fetch source (.ofLayer l) with
  | (.error e, w) => (.error e, w)
  | (.ok fetched, w) =>
    match readLayer l fetched.data w with
    | (.error e, w) => (.error e, w)
    | (.ok updated, w) => (.ok updated, cacheDocument l fetched.data w)

/-- Refreshes a layer. -/
def run (source : Source) (l : Layer) (w : World) : LayerRefresh × World :=
  match tryRun source l w with
  | (.ok updated, w) => ({ layer := updated, updated := true, warning := none }, w)
  | (.error e, w) =>
    ({ layer := l, updated := false, warning := some readFailure },
      w.report [.capabilitiesNotRead l.id l.name (Endpoint.simplify l.url) e])

end LayerRefresh

end MapServices
