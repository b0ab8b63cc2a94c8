import MapServices.Cache
import MapServices.Schedule

/-!
# Overlapping calls for documents

Any number of calls share a store, and take their steps in any order. The time and the answers of
the source may be different at each step.

* `CacheCalls.run` carries out a schedule of steps, and keeps a record of what each step did with
  the store or the source.
-/

namespace MapServices

/-- A call of the cache. One without a configured layer is a call for `Cache.unnamedLayer`. -/
inductive CacheCall where
  /-- Asks for the document of a layer. A forced call does not look into the store. -/
  | get (layer : Layer) (force : Bool)
  /-- Saves a document that was fetched elsewhere. -/
  | save (layer : Layer) (data : String)

namespace CacheCall

/-- The layer that the call is about. -/
def layer : CacheCall → Layer
  | get l _ | save l _ => l

/-- The key of the document that the call is about. -/
def key (c : CacheCall) : ServiceKey := .ofLayer c.layer

/-- Where the call starts. -/
def start : CacheCall → CachePhase
  | get _ force => .start force
  | save _ data => .drafting data

end CacheCall

/-- What a step does with the store or the source. -/
inductive CacheAction where
  /-- It looks into the store. -/
  | found (key : ServiceKey) (result : Option CapabilitiesDocument)
  /-- It sends a request and receives the answer. -/
  | fetched (request : FetchRequest) (answer : Except ServiceError FetchedCapabilities)
  /-- It saves a document, which the store keeps in the form `stored`. -/
  | saved (document stored : CapabilitiesDocument)

/-- What the next step of a call does with the store or the source, if it comes to that. -/
def CachePhase.action? (source : Source) (l : Layer) (p : CachePhase) (w : World) :
    Option CacheAction :=
  match p with
  | finding =>
    match w.documents.find (.ofLayer l) with
    | .ok result => some (.found (.ofLayer l) result)
    | .error _ => none
  | fetching => some (.fetched (.ofLayer l) (source (.ofLayer l)).result)
  | saving d =>
    match (w.documents.save d).1 with
    | .ok stored => some (.saved d stored)
    | .error _ => none
  | drafting _ | finished _ => none

/-- Calls of a cache, of which any number may be made. -/
structure CacheCalls where
  world : World
  /-- Where each call stands. -/
  phase : Nat → CachePhase
  /-- What the calls did with the store and the source, the oldest first. -/
  history : List (Nat × CacheAction) := []

namespace CacheCalls

/-- One call takes one step. -/
def step (calls : Nat → CacheCall) (s : CacheCalls) (e : ScheduledStep) : CacheCalls :=
  let l := (calls e.1).layer
  let w := { s.world with now := e.2.now }
  let (p, w') := (s.phase e.1).step e.2.source l w
  { world := w'
    phase := fun j => if j = e.1 then p else s.phase j
    history := s.history ++ ((s.phase e.1).action? e.2.source l w).toList.map (e.1, ·) }

/-- All steps of a schedule. -/
def run (calls : Nat → CacheCall) (w : World) (schedule : List ScheduledStep) : CacheCalls :=
  schedule.foldl (step calls) { world := w, phase := fun i => (calls i).start }

/-- What one call did, the oldest first. -/
def actionsOf (s : CacheCalls) (i : Nat) : List CacheAction :=
  (s.history.filter (·.1 = i)).map Prod.snd

end CacheCalls

end MapServices
