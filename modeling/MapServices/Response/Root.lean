import MapServices.Key
import MapServices.Xml.Namespace

/-!
# The root element of an answer

The root element tells what kind of document an answer is. The newer documents of all services
have a root in the namespace of the service, or in one that extends it after a slash. Older
documents of map services have a root of another name and without a namespace.

* `accepts` says which root belongs to a service and a version.
-/

namespace MapServices.Response

/-- The name of a root element and its namespace. -/
structure Root where
  namespaceName : Option String
  name : String
deriving DecidableEq, Repr

/-- The namespace and the name in one text. -/
def Root.describe (r : Root) : String :=
  match r.namespaceName with
  | some uri => "\x7b" ++ uri ++ "\x7d" ++ r.name
  | none => r.name

/-- Why a document has no root element. -/
inductive RootError where
  /-- The document ends before an element starts. -/
  | missing
  /-- Markup before the root element cannot be read. -/
  | malformed (error : Xml.ReadError)
  /-- The root element binds a prefix that must not be bound so. -/
  | badBinding (refusal : Xml.Binding.Refusal)
deriving DecidableEq, Repr

/-- The text of the error. -/
def RootError.message : RootError → String
  | missing => "Response has no root element"
  | malformed e => "Malformed XML before root element: " ++ e.message
  | badBinding r => "Malformed XML before root element: " ++ r.message

/-- The tag of the first element among events. -/
def firstTag? (events : List Xml.Event) : Option Xml.Tag :=
  events.findSome? fun
    | .start tag => some tag
    | .empty tag => some tag
    | _ => none

/-- The root element that a tag starts. -/
def Root.ofTag (tag : Xml.Tag) : Except RootError Root :=
  match tag.rootNamespace? with
  | .error r => .error (.badBinding r)
  | .ok uri => .ok {
      namespaceName := uri.map String.ofList
      name := String.ofList tag.localName }

/-- The root element of a document. What follows its tag is not looked at. -/
def Root.ofChars (s : List Char) : Except RootError Root :=
  let reading := Xml.Reading.ofChars s
  match firstTag? reading.events, reading.failure? with
  | some tag, _ => Root.ofTag tag
  | none, some f => .error (.malformed f.error)
  | none, none => .error .missing

/-! ### Roots of capabilities documents -/

/-- Whether a namespace is `base`, or extends it after a slash. -/
def inNamespace (base : String) (uri : Option String) : Bool :=
  match uri with
  | none => false
  | some uri => uri == base || (base.toList ++ ['/']).isPrefixOf uri.toList

/-- A root element that is looked for. -/
structure ExpectedRoot where
  /-- The namespace, or nothing for a root in no namespace. -/
  base : Option String
  name : String
deriving DecidableEq, Repr

namespace ExpectedRoot

/-- The root of a newer map service. -/
def wms : ExpectedRoot := ⟨some "http://www.opengis.net/wms", "WMS_Capabilities"⟩

/-- The root of an older map service. -/
def legacyWms : ExpectedRoot := ⟨none, "WMT_MS_Capabilities"⟩

/-- The root of a feature service. -/
def wfs : ExpectedRoot := ⟨some "http://www.opengis.net/wfs", "WFS_Capabilities"⟩

/-- The root of a tile service. -/
def wmts : ExpectedRoot := ⟨some "http://www.opengis.net/wmts", "Capabilities"⟩

/-- Whether a root is the one that is looked for. -/
def isMetBy (e : ExpectedRoot) (r : Root) : Bool :=
  r.name == e.name && match e.base with
    | some base => inNamespace base r.namespaceName
    | none => r.namespaceName.isNone

/-- The namespace and the name in one text. -/
def describe (e : ExpectedRoot) : String := Root.describe ⟨e.base, e.name⟩

end ExpectedRoot

/-- The roots that a document of a service may have when a certain version was asked for. -/
def expectedRoots (serviceType : ServiceType) (version : Option String) : List ExpectedRoot :=
  match serviceType, normalizeVersion version with
  | .wms, none => [.wms, .legacyWms]
  | .wms, some "1.3.0" => [.wms]
  | .wms, some _ => [.legacyWms]
  | .wfs, _ => [.wfs]
  | .wmts, _ => [.wmts]

/-- Whether a root belongs to a service and a version. -/
def accepts (serviceType : ServiceType) (version : Option String) (root : Root) : Bool :=
  (expectedRoots serviceType version).any (·.isMetBy root)

/-- The roots that belong to a service and a version, in one text. -/
def describeExpected (serviceType : ServiceType) (version : Option String) : String :=
  " or ".intercalate ((expectedRoots serviceType version).map ExpectedRoot.describe)

end MapServices.Response
