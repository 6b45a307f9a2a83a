import DocumentApi.Operation

/-!
# Requests on a collection

The method of a request decides which operation is carried out, and its parameters say on what.
`GET` reads one document if there is an identifier and a list otherwise, `POST` inserts, `PATCH`
changes and `DELETE` deactivates; there are no other methods.
-/

namespace DocumentApi

namespace Service

variable {m : Type → Type} [Monad m] (backend : Backend m) (schema : Schema)

/-- Carries out a request on the collection of a schema. New documents that give no identifier take
theirs from `ids`. -/
def answer (ids : Nat → ObjectId) (request : Request) : m Response :=
  match request.method with
  | "GET" =>
    match request.param? "id" with
    | some id => Operation.read backend schema id
        (Projection.parse (Listing.textParam request "fields"))
        (Population.parse (Listing.textParam request "populate"))
    | none => Operation.list backend schema (.ofRequest request)
  | "POST" => Operation.create backend schema ids request
  | "PATCH" => Operation.change backend schema request (request.param? "id")
  | "DELETE" => Operation.deactivate backend schema (request.param? "id")
  | other => pure (Refusal.notSupported other).toWrappedResponse

end Service

end DocumentApi
