import DocumentApi.Backend
import DocumentApi.Population

/-!
# Resolving references

A reference field holds the identifier of a document of another collection, or a list of them.
Resolving it puts the documents in their place: for each node of a population the documents that are
referred to are fetched at once, the nodes below it are resolved in them, and then each identifier
is replaced. An identifier without a document becomes null, and is dropped from a list. Fields that
the schema does not declare as references are left alone.
-/

namespace DocumentApi.Population

/-- The identifiers that a value refers to. -/
def idsIn : Bson → List ObjectId
  | .objectId id => [id]
  | .array items => items.filterMap Bson.objectId?
  | _ => []

/-- Inserts an identifier into an ascending list, unless it is there. -/
def insertId (id : ObjectId) : List ObjectId → List ObjectId
  | [] => [id]
  | other :: rest =>
    if id.val < other.val then id :: other :: rest
    else if id = other then other :: rest
    else other :: insertId id rest

/-- The identifiers that documents refer to in a field, ascending and each once. -/
def referencedIds (documents : List Document) (path : String) : List ObjectId :=
  (documents.flatMap fun document => ((Fields.get? document path).map idsIn).getD []).foldl
    (fun ids id => insertId id ids) []

/-- The last of some documents with the given identifier. -/
def document? (fetched : List Document) (id : ObjectId) : Option Document :=
  fetched.reverse.find? fun document => document.id? == some id

/-- An item of a list of references: an identifier becomes its document or nothing, anything else
stays. -/
def resolveItem (fetched : List Document) : Bson → Option Bson
  | .objectId id => (document? fetched id).map .document
  | other => some other

/-- A value with the identifiers in it replaced by documents. -/
def resolveValue (fetched : List Document) : Bson → Bson
  | .objectId id => ((document? fetched id).map .document).getD .null
  | .array items => .array (items.filterMap (resolveItem fetched))
  | other => other

/-- A document with the references in one of its fields replaced. -/
def substitute (fetched : List Document) (path : String) (document : Document) : Document :=
  match Fields.get? document path with
  | some value => Fields.insert document path (resolveValue fetched value)
  | none => document

variable {m : Type → Type} [Monad m]

mutual

/-- Resolves one node in documents of a collection with the given schema. -/
def resolveNode (backend : Backend m) (schema : Schema) :
    Node → List Document → ExceptT StoreError m (List Document)
  | .mk path children, documents =>
    match schema.reference? path with
    | none => pure documents
    | some target => do
      let ids := referencedIds documents path
      if ids.isEmpty then pure documents
      else do
        let fetched ← backend.fetchAll ids target.collection
        let fetched ← resolve backend target children fetched
        pure (documents.map (substitute fetched path))

/-- Resolves nodes one after another in documents of a collection with the given schema. -/
def resolve (backend : Backend m) (schema : Schema) :
    List Node → List Document → ExceptT StoreError m (List Document)
  | [], documents => pure documents
  | node :: rest, documents => do
    let documents ← resolveNode backend schema node documents
    resolve backend schema rest documents

end

end DocumentApi.Population
