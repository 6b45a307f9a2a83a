import DocumentApi.Listing
import DocumentApi.Normalization
import DocumentApi.Population.Resolution
import DocumentApi.Request.Checks
import DocumentApi.Schema.Body

/-!
# Operations on a collection

The five operations that requests ask for: reading one document, reading a list, inserting, changing
and deactivating. Each of them answers with a response; what goes wrong in the store becomes a
refusal. Whatever can be refused without the store is refused before it is touched.
-/

namespace DocumentApi

namespace Operation

variable {m : Type → Type} [Monad m]

/-- An operation of the store, whose failures are refusals. -/
def onStore {α : Type} (operation : ExceptT StoreError m α) : ExceptT Refusal m α :=
  operation.adapt Refusal.ofStoreError

/-- A check that may refuse the request. -/
def check {α : Type} (result : Except Refusal α) : ExceptT Refusal m α :=
  ExceptT.mk (pure result)

/-- Reads an identifier; a malformed one is a failure of the store. -/
def readId (text : String) : ExceptT Refusal m ObjectId :=
  check ((ObjectId.read text).mapError Refusal.ofStoreError)

/-- Prepares something from a body; a refused body is a failure of the store. -/
def prepared {α : Type} (schema : Schema) (result : Except BodyError α) : ExceptT Refusal m α :=
  check (result.mapError fun cause =>
    Refusal.ofStoreError (cause.toStoreError schema.collection))

/-- The response of an operation that may be refused. -/
def respond (operation : ExceptT Refusal m Response) : m Response := do
  match ← operation.run with
  | .ok response => pure response
  | .error refusal => pure refusal.toResponse

variable (backend : Backend m) (schema : Schema)

/-- Reads one document. -/
def read (id : String) (projection : Projection) (population : Population) : m Response :=
  respond do
    let id ← readId id
    match ← onStore (backend.fetch id projection schema.collection) with
    | none => pure (.bare Status.notFound)
    | some document =>
      match ← onStore (Population.resolve backend schema population [document]) with
      | document :: _ => pure (.withBody Status.ok document.normalize)
      | [] => pure (.bare Status.notFound)

/-- Reads a list of documents; the count comes before the read. -/
def list (listing : Listing) : m Response :=
  respond do
    let totalCount ← onStore (backend.count listing.effectiveCriteria schema.collection)
    let documents ← onStore (backend.select listing.selection schema.collection)
    let documents ← onStore (Population.resolve backend schema listing.population documents)
    let envelope := (Envelope.ofList documents).withPage listing.page? totalCount
    pure (.withBody Status.ok envelope.normalize)

/-- The objects of a body that is one object or a list of objects. -/
def objectsOf : Json → List (Fields Json)
  | .obj fields => [fields]
  | .arr items => items.filterMap Json.object?
  | _ => []

/-- Prepares objects for insertion, the `i`-th with the identifier `ids i` if it gives none. -/
def prepareAll (ids : Nat → ObjectId) (i : Nat) :
    List (Fields Json) → Except BodyError (List Document)
  | [] => .ok []
  | object :: rest => do
    let document ← schema.newDocument (ids i) object
    let others ← prepareAll ids (i + 1) rest
    return document :: others

/-- Inserts the objects of a body. -/
def create (ids : Nat → ObjectId) (request : Request) : m Response :=
  respond do
    let body ← check request.checkWrite
    let documents ← prepared schema (prepareAll schema ids 0 (objectsOf body))
    onStore (backend.insert documents schema.collection)
    pure (.withBody Status.created (Envelope.ofList documents).normalize)

/-- Changes one document. -/
def change (request : Request) (id : Option String) : m Response :=
  respond do
    let body ← check request.checkWrite
    let id ← check (Request.checkId id .invalid)
    match body with
    | .obj fields =>
      let changes ← prepared schema (schema.changes fields)
      if changes.isEmpty then check (.error .invalid)
      else do
        let id ← readId id
        match ← onStore (backend.update id changes .after schema.collection) with
        | some document => pure (.withBody Status.ok document.normalize)
        | none => check (.error .missing)
    | _ => check (.error .invalid)

/-- The change that deactivates a document. -/
def deactivation : Fields Bson := [(Schema.activeField, .bool false)]

/-- The answer to a deactivation. -/
def deactivated (id : ObjectId) : Json :=
  .obj [("deactivated", .bool true), (Schema.idField, .str id.toHex)]

/-- Deactivates one document. -/
def deactivate (id : Option String) : m Response :=
  respond do
    let text ← check (Request.checkId id .missing)
    let id ← readId text
    match ← onStore (backend.update id deactivation .before schema.collection) with
    | some previous => pure (.withBody Status.ok (deactivated (previous.id?.getD id)))
    | none => pure (.bare Status.badRequest)

end Operation

end DocumentApi
