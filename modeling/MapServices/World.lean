import MapServices.Source
import MapServices.Store.Documents
import MapServices.Store.Layers

/-!
# The surroundings of an operation

A `World` is everything that an operation on layers and documents can see change: the stores, the
time, the requests that were sent and the notices that were given. Each function here is one
indivisible step of an operation, during which nothing else happens.
-/

namespace MapServices

/-- What the outside contributes to one step: the time, and the source that answers requests. -/
structure Moment where
  now : Instant
  source : Source

/-- The surroundings of an operation. -/
structure World where
  layers : LayerStore := {}
  documents : DocumentStore := {}
  /-- The present time. -/
  now : Instant := ⟨0, 0⟩
  /-- A refresh of all layers is under way. -/
  refreshing : Bool := false
  /-- The requests sent so far, the oldest first. -/
  requests : List FetchRequest := []
  /-- The notices given so far, the oldest first. -/
  notices : List Notice := []
deriving Inhabited

namespace World

/-- Gives notices. -/
def report (w : World) (notices : List Notice) : World := { w with notices := w.notices ++ notices }

/-- Sends a request. -/
def send (w : World) (request : FetchRequest) : World :=
  { w with requests := w.requests ++ [request] }

/-- Receives the answer to a request that was sent. -/
def receive (w : World) (source : Source) (request : FetchRequest) :
    Except ServiceError FetchedCapabilities × World :=
  let answer := source request
  (answer.result, w.report answer.notices)

/-- Sends a request and receives the answer. -/
def fetch (w : World) (source : Source) (request : FetchRequest) :
    Except ServiceError FetchedCapabilities × World :=
  (w.send request).receive source request

/-- A new document for a key, made at the present time. -/
def draft (w : World) (key : ServiceKey) (data : String) : CapabilitiesDocument :=
  .ofKey key data w.now

/-- Saves a document. -/
def save (w : World) (d : CapabilitiesDocument) :
    Except ServiceError CapabilitiesDocument × World :=
  let (result, documents) := w.documents.save d
  (result, { w with documents })

/-- Writes the derived properties of a layer. -/
def update (w : World) (l : Layer) : Except ServiceError Unit × World :=
  match w.layers.update l with
  | .ok layers => (.ok (), { w with layers })
  | .error e => (.error e, w)

end World

end MapServices
