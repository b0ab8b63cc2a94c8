import MapServices.Notice
import MapServices.Response.Encoding
import MapServices.Response.Root

/-!
# Checking an answer

An answer is accepted if its status is success, its content type, if there is one, speaks of XML,
its encoding is known and named without contradiction, and its root element belongs to what was
asked for. Its body is then decoded, and what stands before the document is cut off: byte order
marks, white space and the XML declaration.

* `Response.check` is the whole check. It gives a notice if malformed bytes were replaced.
-/

namespace MapServices

/-- The answer of a service. -/
structure Response where
  status : Nat
  contentType : Option String
  body : List UInt8
deriving DecidableEq, Inhabited, Repr

/-- The text of an accepted answer. -/
structure CheckedBody where
  /-- The name of the encoding of the body. -/
  encoding : String
  /-- The document, without an XML declaration. -/
  data : String
deriving DecidableEq, Inhabited, Repr

namespace Response

/-- Why an answer is not accepted. -/
inductive Fault where
  | status (status : Nat)
  | contentType (value : String)
  /-- The content type and the XML declaration name different encodings. -/
  | encodingConflict (charset declared : String)
  /-- No encoding has the label. -/
  | unknownEncoding (label : String)
  /-- There is no root element. -/
  | noRoot (error : RootError)
  /-- The root element does not belong to what was asked for. -/
  | wrongRoot (expected : String) (root : Root)
deriving DecidableEq, Repr

/-- The error of the operation that needed the answer. -/
def Fault.toServiceError : Fault → ServiceError
  | status code => .unexpectedStatus code
  | contentType value => .unexpectedContentType value
  | encodingConflict charset declared =>
    .validation ("Encoding conflict: Content-Type charset '" ++ charset ++
      "', XML declaration '" ++ declared ++ "'")
  | unknownEncoding label => .validation ("Unsupported encoding '" ++ label ++ "'")
  | noRoot e => .validation e.message
  | wrongRoot expected root => .mismatch "root element" expected root.describe

/-! ### What stands before the document -/

/-- The text without the byte order marks it starts with. -/
def dropMarks (s : List Char) : List Char := s.dropWhile (· = Xml.Reader.byteOrderMark)

/-- The document in a decoded text. -/
def stripDeclaration (text : List Char) : List Char :=
  let s := Text.trimStart (dropMarks text)
  if "<?xml".toList.isPrefixOf s then
    match Text.cut? "?>".toList s with
    | some (_, rest) => Text.trimStart rest
    | none => s
  else s

/-! ### The check -/

/-- Whether a content type speaks of XML. -/
def isXmlType (contentType : String) : Bool := Text.occurs "xml" (Text.lowered contentType)

/-- Checks status and content type. -/
def checkHead (r : Response) : Except Fault Unit := do
  if r.status ≠ 200 then throw (.status r.status)
  match r.contentType with
  | some value => if !isXmlType value then throw (.contentType value)
  | none => return ()

/-- The encoding of the body. -/
def encoding (r : Response) : Except Fault Encoding :=
  match encodingLabel (r.contentType.bind charset?) (declaredEncoding? r.body) with
  | .error (charset, declared) => .error (.encodingConflict charset declared)
  | .ok label =>
    match Encoding.ofLabel? label with
    | some e => .ok e
    | none => .error (.unknownEncoding label)

/-- Checks that a document is of the kind that was asked for. -/
def checkRoot (serviceType : ServiceType) (version : Option String) (data : List Char) :
    Except Fault Unit :=
  match Root.ofChars data with
  | .error e => .error (.noRoot e)
  | .ok root =>
    if accepts serviceType version root then .ok ()
    else .error (.wrongRoot (describeExpected serviceType version) root)

/-- Checks a body that is decoded already. -/
def checkText (serviceType : ServiceType) (version : Option String) (name : String)
    (text : List Char) : Except Fault CheckedBody := do
  let data := stripDeclaration text
  checkRoot serviceType version data
  return { encoding := name, data := String.ofList data }

/-- Checks an answer to a request for a service and a version. -/
def check (r : Response) (serviceType : ServiceType) (version : Option String)
    (indexes : Encoding.Indexes := {}) : Except Fault CheckedBody × List Notice :=
  match (do r.checkHead; r.encoding) with
  | .error f => (.error f, [])
  | .ok e =>
    let decoded := e.decode indexes r.body
    (checkText serviceType version e.name decoded.text,
      if decoded.malformed then [.malformedBytes e.name] else [])

end Response

end MapServices
