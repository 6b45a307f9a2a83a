import DocumentApi.Error
import DocumentApi.Response

/-!
# Refusals

A request that is not carried out is answered by a refusal: a status, a kind and perhaps a message.
Failures of the store become refusals by `Refusal.ofStoreError`.
-/

namespace DocumentApi

/-- The kinds of refusals that a client can tell apart. -/
inductive Refusal.Kind where
  /-- The request is malformed. -/
  | invalid
  /-- The identifier or the document is missing. -/
  | missing
  /-- A unique index refused the write. -/
  | alreadyExists
  /-- The document does not satisfy its schema. -/
  | missingField
  /-- There is no such method. -/
  | notSupported
  /-- Any other failure. -/
  | unclassified
  deriving DecidableEq

namespace Refusal.Kind

/-- The name of a kind in a response; the last kind has none. -/
def name : Refusal.Kind → String
  | .invalid => "invalid"
  | .missing => "missing"
  | .alreadyExists => "already_exists"
  | .missingField => "missing_field"
  | .notSupported => "not_supported"
  | .unclassified => ""

/-- The kinds that have a name. -/
def named : List Refusal.Kind :=
  [.invalid, .missing, .alreadyExists, .missingField, .notSupported]

/-- The kind with a name, where any other name stands for the kind that has none. -/
def ofName (name : String) : Refusal.Kind :=
  (named.find? (·.name == name)).getD .unclassified

end Refusal.Kind

/-- A request that is not carried out. -/
structure Refusal where
  status : Status
  kind : Refusal.Kind
  message : Option String
  deriving DecidableEq

namespace Refusal

/-- A malformed request. -/
def invalid : Refusal := ⟨Status.badRequest, .invalid, none⟩

/-- A missing identifier or document. -/
def missing : Refusal := ⟨Status.badRequest, .missing, none⟩

/-- A method that there is no operation for. -/
def notSupported (method : String) : Refusal :=
  ⟨Status.methodNotAllowed, .notSupported, some ("Method " ++ method ++ " not supported.")⟩

/-- The refusal with another message. -/
def withMessage (refusal : Refusal) (message : String) : Refusal :=
  { refusal with message := some message }

/-- The refusal that a failure of the store leads to: a conflict for a refused index, an
unprocessable document for one that its schema refuses, and otherwise a failure of the server. -/
def ofStoreError (failure : StoreError) : Refusal :=
  match failure with
  | .duplicateKey .. => ⟨Status.conflict, .alreadyExists, some failure.message⟩
  | .validation _ => ⟨Status.unprocessable, .missingField, some failure.message⟩
  | _ => ⟨Status.serverError, .unclassified, some failure.message⟩

/-- The refusal as a JSON object. -/
def toJson (refusal : Refusal) : Json :=
  .obj (("type", .str refusal.kind.name) ::
    (refusal.message.map fun message => ("message", Json.str message)).toList)

/-- The response that carries the refusal. -/
def toResponse (refusal : Refusal) : Response :=
  .withBody refusal.status refusal.toJson

/-- The response that carries the refusal below the key `error`. -/
def toWrappedResponse (refusal : Refusal) : Response :=
  .withBody refusal.status (.obj [("error", refusal.toJson)])

/-- The text of the refusal. -/
def display (refusal : Refusal) : String :=
  refusal.status.display ++ " [" ++ refusal.kind.name ++ "]" ++
    (refusal.message.map (": " ++ ·)).getD ""

end Refusal

end DocumentApi
