/-!
# Store failures

Everything that can go wrong between a request and the store, by cause, with the one text that each
cause has.
-/

namespace DocumentApi

/-- Why an operation of the store failed. -/
inductive StoreError where
  /-- A value has no form in the format it is to be written in or read from. -/
  | serialization (detail : String)
  /-- A store could not be set up. -/
  | initialization (detail : String)
  /-- A store could not be reached. -/
  | connection (detail : String)
  /-- A unique index refused a write. -/
  | duplicateKey (collection detail : String)
  /-- A document does not satisfy its schema. -/
  | validation (detail : String)
  /-- A text is no identifier. -/
  | invalidId (text : String)
  /-- A document has a shape that the store refuses. -/
  | invalidDocument (detail : String)
  /-- Any other failure of the store. -/
  | backend (detail : String)
  deriving DecidableEq, Inhabited

namespace StoreError

/-- The text of a failure. -/
def message : StoreError → String
  | .serialization detail => "Serialization error: " ++ detail
  | .initialization detail => "Initialization error: " ++ detail
  | .connection detail => "Connection error: " ++ detail
  | .duplicateKey collection detail =>
    "Duplicate key in collection " ++ collection ++ ": " ++ detail
  | .validation detail => "Validation failed: " ++ detail
  | .invalidId text => "Cast to ObjectId failed for value \"" ++ text ++ "\""
  | .invalidDocument detail => "Invalid document: " ++ detail
  | .backend detail => "Backend error: " ++ detail

end StoreError

end DocumentApi
