import MapServices.Encoding.Base64
import MapServices.FetchConfig
import MapServices.Source

/-!
# Requests over the network

A request for capabilities is sent to the address that its text spells, if that is the address of a
host under one of the two schemes of the web. What the network then does is outside of this library:
an `Exchange` is what comes back.

* `HttpClient.answer` is the source that a client with given settings is.
-/

namespace MapServices

/-- A request as it is sent. -/
structure HttpRequest where
  method : String := "GET"
  /-- The address, as it is written after it was read. -/
  target : String
  /-- The credentials in the form that the server expects. -/
  authorization : Option String
  userAgent : String
deriving DecidableEq, Inhabited, Repr

/-- What comes back from the network. -/
inductive Exchange where
  /-- The network does not lead to the host. -/
  | unreachable
  /-- No answer came in time. -/
  | timedOut
  | answered (response : Response)
deriving DecidableEq, Repr

/-- Why a request was not answered. -/
inductive TransportError where
  /-- The text of the address cannot be read. -/
  | badAddress (error : Url.ReadError)
  /-- The address is not one of a host on the web. -/
  | badScheme (target : String)
  /-- The network does not lead to the host. -/
  | unreachable (target : String)
  /-- No answer came in time. -/
  | timedOut (limit : Nat)
deriving DecidableEq, Repr

/-- The text of the error of a request to the given address. -/
def TransportError.message (address : String) : TransportError → String
  | badAddress e => "Request to " ++ address ++ " failed: builder error: " ++ e.message
  | badScheme target =>
    "Request to " ++ address ++ " failed: builder error for url (" ++ target ++
      "): URL scheme is not allowed"
  | unreachable target =>
    "Request to " ++ address ++ " failed: error sending request for url (" ++ target ++
      "): error trying to connect: tcp connect error: Network is unreachable (os error 101)"
  | timedOut limit => "Timed out after " ++ FetchConfig.showTime limit ++ " requesting " ++ address

/-- Whether addresses of the scheme are those of the web. -/
def isWebScheme (scheme : List Char) : Bool := scheme = "http".toList || scheme = "https".toList

/-- The address of a host on the web that a text spells. -/
def webTarget (address : String) : Except TransportError String :=
  match Url.readChars address.toList with
  | .error e => .error (.badAddress e)
  | .ok url =>
    let target := String.ofList url.print
    if url.hasHost && isWebScheme url.scheme then .ok target else .error (.badScheme target)

namespace Credentials

/-- The credentials in the form that a server expects. -/
def authorization (c : Credentials) : String :=
  let pair := c.username.toList ++ ':' :: c.password.toList
  "Basic " ++ String.ofList (Base64.encode (Utf8.encode pair))

end Credentials

namespace Response

/-- Whether a header may hold the character. -/
def isHeaderText (c : Char) : Bool := c = '\t' || (0x20 ≤ c.toNat && c.toNat < 0x7F)

/-- The answer without a content type that no header may hold. -/
def withReadableHead (r : Response) : Response :=
  { r with contentType := r.contentType.filter fun value => value.toList.all isHeaderText }

end Response

/-- Something that sends requests over the network. -/
structure HttpClient where
  config : FetchConfig := {}
  /-- The tables with which answers are decoded. -/
  indexes : Encoding.Indexes := {}
  /-- What comes back for a request. -/
  network : HttpRequest → Exchange

namespace HttpClient

/-- The request that is sent to an address. -/
def request (c : HttpClient) (credentials : Option Credentials) (target : String) :
    HttpRequest where
  target := target
  authorization := credentials.map Credentials.authorization
  userAgent := c.config.userAgent

/-- The requests that reach a server. -/
def sent (c : HttpClient) (r : FetchRequest) : List HttpRequest :=
  match webTarget r.address with
  | .error _ => []
  | .ok target =>
    let request := c.request r.credentials target
    if c.network request = .unreachable then [] else [request]

/-- The response to a request for capabilities. -/
def exchange (c : HttpClient) (r : FetchRequest) : Except TransportError Response := do
  let target ← webTarget r.address
  match c.network (c.request r.credentials target) with
  | .unreachable => .error (.unreachable target)
  | .timedOut => .error (.timedOut c.config.timeout)
  | .answered response => .ok response.withReadableHead

/-- Answers a request for capabilities over the network. -/
def answer (c : HttpClient) : Source := fun r =>
  match c.exchange r with
  | .error e => { result := .error (.network (e.message r.address)) }
  | .ok response => response.toAnswer r c.indexes

end HttpClient

end MapServices
