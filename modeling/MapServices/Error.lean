/-!
# Errors of service operations

What can go wrong when capabilities are fetched, checked, read, stored or applied. The kind of an
error is the label under which it is logged, and the message is its text.
-/

namespace MapServices

/-- Why an operation on a service, its documents or its layers failed. -/
inductive ServiceError where
  /-- The service could not be reached. -/
  | network (detail : String)
  /-- The service answered with another status than success. -/
  | unexpectedStatus (status : Nat)
  /-- The service answered with something else than XML. -/
  | unexpectedContentType (value : String)
  /-- The answer is no capabilities document. -/
  | validation (detail : String)
  /-- The answer holds something else than what was asked for. -/
  | mismatch (what expected actual : String)
  /-- The document cannot be read. -/
  | parse (detail : String)
  /-- The document does not describe the layer. -/
  | layerNotFound (name : String)
  /-- The store failed. -/
  | database (detail : String)
  /-- The request makes no sense. -/
  | config (detail : String)
deriving DecidableEq, Inhabited, Repr

namespace ServiceError

/-- The label of the error in log lines. -/
def kind : ServiceError → String
  | network _ => "network"
  | unexpectedStatus _ => "unexpected_status"
  | unexpectedContentType _ => "unexpected_content_type"
  | validation _ | mismatch .. => "validation"
  | parse _ | layerNotFound _ => "parse"
  | database _ => "database"
  | config _ => "config"

/-- Whether the answer was fetched but did not pass the checks. -/
def isValidation (e : ServiceError) : Bool := e.kind == "validation"

/-- The text of the error. -/
def message : ServiceError → String
  | network detail => "Network error: " ++ detail
  | unexpectedStatus status => s!"Unexpected status code: {status}"
  | unexpectedContentType value => "Unexpected Content-Type: " ++ value
  | validation detail => "Validation failed: " ++ detail
  | mismatch what expected actual => s!"Expected {what} '{expected}', got '{actual}'"
  | parse detail => "Failed to parse capabilities: " ++ detail
  | layerNotFound name => "Layer not found in capabilities: " ++ name
  | database detail => "Database error: " ++ detail
  | config detail => "Invalid configuration: " ++ detail

end ServiceError

end MapServices
