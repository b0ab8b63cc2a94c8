import MapServices.World

/-!
# The documents of layers, from the store or from the service

The document that a layer needs is taken from the store if it is there, and fetched and saved if
it is not. A forced call does not look into the store.

Between the steps of a call other things may happen. A `CachePhase` is where a call stands between
two steps.

* `finish_step`: one step, and then the rest without interruption, is the same as doing without
  interruption all that is left. So `getCapabilities` is what the steps amount to.
-/

namespace MapServices

namespace Cache

/-- Goes on when the answer has come: what was fetched is saved. -/
def afterAnswer (key : ServiceKey) :
    Except ServiceError FetchedCapabilities × World →
      Except ServiceError CapabilitiesDocument × World
  | (.error e, w) => (.error e, w)
  | (.ok fetched, w) => w.save (w.draft key fetched.data)

/-- Goes on when the document has to be fetched. -/
def fetchAndSave (source : Source) (l : Layer) (w : World) :
    Except ServiceError CapabilitiesDocument × World :=
  afterAnswer (.ofLayer l) (w.fetch source (.ofLayer l))

/-- The document that describes a layer. -/
def getCapabilities (source : Source) (l : Layer) (force : Bool) (w : World) :
    Except ServiceError CapabilitiesDocument × World :=
  if force then fetchAndSave source l w
  else
    match w.documents.find (.ofLayer l) with
    | .error e => (.error e, w)
    | .ok (some d) => (.ok d, w)
    | .ok none => fetchAndSave source l w

/-- A layer that stands for a service for which none is configured. -/
def unnamedLayer (url : String) (serviceType : ServiceType) (version : Option String)
    (credentials : Option Credentials) : Layer :=
  { id := 0, name := "", url, serviceType, version, credentials }

/-- Saves a document that was fetched and checked elsewhere. -/
def saveFetched (l : Layer) (data : String) (w : World) :
    Except ServiceError CapabilitiesDocument × World :=
  w.save (w.draft (.ofLayer l) data)

end Cache

/-- Where a call for the document of a layer stands. -/
inductive CachePhase where
  /-- It is about to look into the store. -/
  | finding
  /-- It is about to fetch the document. -/
  | fetching
  /-- It has a text and is about to make a document of it. -/
  | drafting (data : String)
  /-- It is about to save the document. -/
  | saving (draft : CapabilitiesDocument)
  /-- It has ended. -/
  | finished (result : Except ServiceError CapabilitiesDocument)

namespace CachePhase

/-- Where a call starts. -/
def start (force : Bool) : CachePhase := if force then fetching else finding

/-- One step of a call. -/
def step (source : Source) (l : Layer) (p : CachePhase) (w : World) : CachePhase × World :=
  match p with
  | finding =>
    match w.documents.find (.ofLayer l) with
    | .error e => (finished (.error e), w)
    | .ok (some d) => (finished (.ok d), w)
    | .ok none => (fetching, w)
  | fetching =>
    match w.fetch source (.ofLayer l) with
    | (.error e, w) => (finished (.error e), w)
    | (.ok fetched, w) => (drafting fetched.data, w)
  | drafting data => (saving (w.draft (.ofLayer l) data), w)
  | saving draft =>
    let (result, w) := w.save draft
    (finished result, w)
  | finished result => (finished result, w)

/-- Does all that is left of a call, without interruption. -/
def finish (source : Source) (l : Layer) (p : CachePhase) (w : World) :
    Except ServiceError CapabilitiesDocument × World :=
  match p with
  | finding => Cache.getCapabilities source l false w
  | fetching => Cache.fetchAndSave source l w
  | drafting data => Cache.saveFetched l data w
  | saving draft => w.save draft
  | finished result => (result, w)

/-- One step, and then the rest without interruption, is all that is left without interruption. -/
theorem finish_step (source : Source) (l : Layer) (p : CachePhase) (w : World) :
    finish source l (p.step source l w).1 (p.step source l w).2 = p.finish source l w := by
  cases p with
  | finding =>
    simp only [step, finish, Cache.getCapabilities]
    rcases w.documents.find (.ofLayer l) with e | _ | d <;> rfl
  | fetching =>
    simp only [step, finish, Cache.fetchAndSave]
    rcases w.fetch source (.ofLayer l) with ⟨e | fetched, w'⟩ <;> rfl
  | drafting data => rfl
  | saving draft => rfl
  | finished result => rfl

theorem finish_start (source : Source) (l : Layer) (force : Bool) (w : World) :
    finish source l (start force) w = Cache.getCapabilities source l force w := by
  cases force <;> rfl

end CachePhase

end MapServices
