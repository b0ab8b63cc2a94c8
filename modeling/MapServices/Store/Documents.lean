import MapServices.Document

/-!
# A store of documents in memory

The store keeps at most one document per key. A document that is saved for the first time gets the
next number. A later one for the same key takes over the number and the time of creation of the one
that it replaces.

* `find?_put`: what was saved is found under its key, and all other keys keep what they had.
-/

namespace MapServices

/-- Documents by key. -/
structure DocumentStore where
  documents : SortedMap ServiceKey CapabilitiesDocument := ∅
  /-- The last number that was given to a document. -/
  lastId : Int := 0
  /-- How many documents were saved so far. -/
  writes : Nat := 0
  /-- The store does not let itself be searched. -/
  findRefused : Bool := false
  /-- The store does not take documents. -/
  saveRefused : Bool := false
deriving Inhabited

namespace DocumentStore

/-- The number of documents. -/
def size (s : DocumentStore) : Nat := s.documents.size

/-- Whether there is no document. -/
def isEmpty (s : DocumentStore) : Bool := s.size == 0

/-- The document with the given key. -/
def find? (s : DocumentStore) (key : ServiceKey) : Option CapabilitiesDocument :=
  s.documents.get? key

/-- The document with the given key, if the store lets itself be searched. -/
def find (s : DocumentStore) (key : ServiceKey) :
    Except ServiceError (Option CapabilitiesDocument) :=
  if s.findRefused then .error (.database "find refused") else .ok (s.find? key)

/-- The form in which the store keeps a document. -/
def stored (s : DocumentStore) (d : CapabilitiesDocument) : CapabilitiesDocument :=
  match s.find? d.key with
  | some old => { d with id := old.id, createdAt := old.createdAt }
  | none => { d with id := some (s.lastId + 1) }

/-- The store with one more document, or with a newer one in place of an older. -/
def put (s : DocumentStore) (d : CapabilitiesDocument) : DocumentStore :=
  { s with
    documents := s.documents.insert d.key (s.stored d)
    lastId := if (s.find? d.key).isSome then s.lastId else s.lastId + 1
    writes := s.writes + 1 }

/-- Saves a document, if the store takes documents, and gives the form in which it is kept. -/
def save (s : DocumentStore) (d : CapabilitiesDocument) :
    Except ServiceError CapabilitiesDocument × DocumentStore :=
  if s.saveRefused then (.error (.database "save refused"), s) else (.ok (s.stored d), s.put d)

/-- What was saved is found under its key, and all other keys keep what they had. -/
theorem find?_put (s : DocumentStore) (d : CapabilitiesDocument) (key : ServiceKey) :
    (s.put d).find? key = if key = d.key then some (s.stored d) else s.find? key :=
  SortedMap.get?_insert ..

end DocumentStore

end MapServices
