import MapServices.Error

/-!
# Connecting to a database

Stores in a database can be used once a connection is there. What a database answers when it is
asked for one is outside of this library.
-/

namespace MapServices

/-- Why there is no connection. -/
inductive ConnectionError where
  /-- The network does not lead to the database. -/
  | unreachable
  /-- The database refuses the connection. -/
  | refused (detail : String)
deriving DecidableEq, Repr

/-- The error of the operation that needed the connection. -/
def ConnectionError.toServiceError : ConnectionError → ServiceError
  | unreachable =>
    .database ("Connection failed: error communicating with database: " ++
      "Network is unreachable (os error 101)")
  | refused detail => .database ("Connection failed: error returned from database: " ++ detail)

end MapServices
