import MapServices.Url.Parser
import MapServices.Text.Blank

/-!
# Endpoints

Layers of one service spell its address in many ways. Two addresses lead to the same endpoint if
they agree up to user and password, fragment, letter case of the host, a port that the scheme
implies, and empty parts of the query. `Endpoint.simplify` is the one spelling by which an
endpoint is known.
-/

namespace MapServices.Endpoint

/-- Whether a part of a query says something: it is not empty and has a name. -/
def isMeaningful (segment : List Char) : Bool := segment.head?.any (· ≠ '=')

/-- The parts of a query that say something. -/
def meaningfulSegments (query : List Char) : List (List Char) :=
  (query.splitOn '&').filter isMeaningful

/-- The query without the parts that say nothing, unless there is nothing else. -/
def simplifyQuery? (query : List Char) : Option (List Char) :=
  match meaningfulSegments query with
  | [] => none
  | segments => some (['&'].intercalate segments)

/-- The address without user, password, fragment and the parts of the query that say nothing. -/
def ofUrl (u : Url) : Url :=
  { u with
    username := []
    password := []
    fragment? := none
    query? := u.query?.bind simplifyQuery? }

/-- A text that is no address of a host, without the separators that it ends with. -/
def stripSeparators (s : List Char) : List Char :=
  (s.reverse.dropWhile fun c => c = '?' || c = '&').reverse

/-- The address of a host that a text spells. -/
def hostUrl? (s : List Char) : Option Url :=
  match Url.readChars s with
  | .ok u => if u.hasHost then some u else none
  | .error _ => none

/-- The one spelling of an address. A text that is no absolute address of a host is only trimmed. -/
def simplifyChars (raw : List Char) : List Char :=
  let s := Text.trim raw
  match hostUrl? s with
  | some u => (ofUrl u).print
  | none => stripSeparators s

/-- The one spelling of an address. A text that is no absolute address of a host is only trimmed. -/
def simplify (raw : String) : String := String.ofList (simplifyChars raw.toList)

/-- Whether a parameter occurs in an address, whatever its letter case: whether its name is
followed by an equals sign anywhere. -/
def hasParameter (url name : String) : Bool :=
  Text.occursIn (Text.lower name.toList ++ ['=']) (Text.lower url.toList)

end MapServices.Endpoint
