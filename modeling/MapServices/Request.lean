import MapServices.Key
import MapServices.Url.Form

/-!
# Requests for capabilities

A request says which service is asked, for which version, and with which credentials. Its address
is that of the endpoint with the parameters of the protocol put behind its own ones. A parameter
that the endpoint has already, in any letter case, is not given again.

* `capabilitiesUrl` is the address of a request.
-/

namespace MapServices

/-- What to ask for, and how to log in. -/
structure FetchRequest where
  url : String
  serviceType : ServiceType
  version : Option String
  credentials : Option Credentials
deriving DecidableEq, Inhabited, Repr

namespace FetchRequest

/-- The request that a layer was configured for. -/
def ofLayer (l : Layer) : FetchRequest where
  url := l.url
  serviceType := l.serviceType
  version := normalizeVersion l.version
  credentials := l.credentials

/-- The request for the document with the given key. -/
def ofKey (key : ServiceKey) (credentials : Option Credentials) : FetchRequest where
  url := key.url
  serviceType := key.serviceType
  version := key.version
  credentials := credentials

/-- The key of the document that is asked for. -/
def key (r : FetchRequest) : ServiceKey := .ofParts r.url r.serviceType r.version

end FetchRequest

/-- The parameters that an endpoint lacks for a request of its capabilities. -/
def missingParameters (endpoint : String) (serviceType : ServiceType) (version : Option String) :
    List (String × String) :=
  let lacks (name : String) : Bool := !Endpoint.hasParameter endpoint name
  let versionLacks := lacks "version" && lacks serviceType.versionParameter
  [("service", serviceType.name)].filter (fun _ => lacks "service") ++
    [("request", "GetCapabilities")].filter (fun _ => lacks "request") ++
    match normalizeVersion version with
    | some v => [(serviceType.versionParameter, v)].filter fun _ => versionLacks
    | none => []

/-- Puts parameters behind those that an address has already. -/
def appendParameters (endpoint : String) (parameters : List (String × String)) : String :=
  if parameters.isEmpty then endpoint
  else
    let separator := if endpoint.toList.contains '?' then '&' else '?'
    endpoint ++ String.ofList (separator :: Url.formPairs parameters)

/-- The address at which a service publishes its capabilities. -/
def capabilitiesUrl (url : String) (serviceType : ServiceType) (version : Option String) : String :=
  let endpoint := Endpoint.simplify url
  appendParameters endpoint (missingParameters endpoint serviceType version)

namespace FetchRequest

/-- The address of the request. -/
def address (r : FetchRequest) : String := capabilitiesUrl r.url r.serviceType r.version

end FetchRequest

end MapServices
