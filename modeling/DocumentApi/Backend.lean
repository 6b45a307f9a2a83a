import DocumentApi.Retry
import DocumentApi.Store

/-!
# Backends

A backend is what requests are carried out on: eight operations on collections of documents, in a
setting `m` with effects, each of which may fail.

* `Backend.inMemory` is the backend of a `Store`;
* `Backend.Call` is what can be asked of a backend.
-/

namespace DocumentApi

/-- The operations on collections of documents. -/
structure Backend (m : Type → Type) where
  /-- The document with an identifier, cut down. -/
  fetch : ObjectId → Projection → String → ExceptT StoreError m (Option Document)
  /-- The documents that are selected. -/
  select : Selection → String → ExceptT StoreError m (List Document)
  /-- How many documents satisfy criteria. -/
  count : Criteria → String → ExceptT StoreError m Nat
  /-- The documents with the given identifiers. -/
  fetchAll : List ObjectId → String → ExceptT StoreError m (List Document)
  /-- Inserts documents one after another up to the first that is refused. -/
  insert : List Document → String → ExceptT StoreError m Unit
  /-- Changes the document with an identifier and returns one of its versions. -/
  update : ObjectId → Fields Bson → Returning → String → ExceptT StoreError m (Option Document)
  /-- Creates an index on a field of a collection. -/
  createIndex : String → String → Bool → ExceptT StoreError m Unit
  /-- Removes a collection with its indexes. -/
  drop : String → ExceptT StoreError m Unit

/-- Computations that read and change a store. -/
abbrev StoreM := StateM Store

namespace Backend

/-- A call of an operation on a collection. -/
inductive Call where
  | fetch (collection : String) (id : ObjectId) (projection : Projection)
  | select (collection : String) (selection : Selection)
  | count (collection : String) (criteria : Criteria)
  | fetchAll (collection : String) (ids : List ObjectId)
  | insert (collection : String) (documents : List Document)
  | update (collection : String) (id : ObjectId) (changes : Fields Bson) (returning : Returning)
  | createIndex (collection field : String) (unique : Bool)
  | drop (collection : String)

/-- An operation that changes nothing. -/
def read {α : Type} (operation : Store → Except StoreError α) : ExceptT StoreError StoreM α :=
  ExceptT.mk fun store => (operation store, store)

/-- An operation that may change the store. -/
def write {α : Type} (operation : Store → Except StoreError α × Store) :
    ExceptT StoreError StoreM α :=
  ExceptT.mk operation

/-- The backend that keeps everything in one store. -/
def inMemory (engine : StoreEngine) : Backend StoreM where
  fetch id projection name := read fun store => .ok (store.fetch id projection name)
  select selection name := read fun store => store.select engine selection name
  count criteria name := read fun store => store.count engine criteria name
  fetchAll ids name := read fun store => .ok (store.fetchAll ids name)
  insert documents name := write fun store => store.insertAll documents name
  update id changes returning name := write fun store => store.update id changes returning name
  createIndex name field unique := write fun store => (.ok (), store.createIndex name field unique)
  drop name := write fun store => (.ok (), store.drop name)

variable {m : Type → Type} [Monad m]

/-- Creates the unique indexes that a schema declares. -/
def createIndexes (backend : Backend m) (schema : Schema) : ExceptT StoreError m Unit :=
  schema.uniqueFields.forM fun field => backend.createIndex schema.collection field true

/-- Removes a collection, with further attempts if that fails. -/
def clear (backend : Backend m) (policy : RetryPolicy) (sleep : Nat × Nat → m Unit)
    (collection : String) : ExceptT StoreError m Unit :=
  ExceptT.mk (policy.run sleep fun _ => (backend.drop collection).run)

end Backend

end DocumentApi
