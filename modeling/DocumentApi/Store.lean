import DocumentApi.Bson.Display
import DocumentApi.Bson.Equality
import DocumentApi.Document.Cut
import DocumentApi.Document.Sorting
import DocumentApi.Matching
import DocumentApi.Selection

/-!
# The store

A store holds collections by name, each with its documents in order of insertion and the names of
its unique fields. The identifier is unique in every collection. A unique field may be absent or
null in any number of documents; any other value stands in one document at most.

Every operation names one collection. Writes check uniqueness before they change anything, except
that a list of documents is inserted one after another up to the first that is refused.

What a store leaves to others is a parameter, its `StoreEngine`: the compilation of patterns, and the
order of what is sorted where the sort keys do not put it in order.
-/

namespace DocumentApi

/-- What a store leaves to others. -/
structure StoreEngine extends PatternEngine, Sorter

namespace StoreEngine

instance : Coe StoreEngine PatternEngine := ⟨toPatternEngine⟩

/-- An engine that sorts by insertion. -/
def ofPatterns (patterns : PatternEngine) : StoreEngine :=
  { patterns, Sorter.stable with }

/-- An engine that sorts by insertion and has no patterns. -/
def withoutPatterns : StoreEngine :=
  ofPatterns ⟨fun _ => .error "there are no patterns"⟩

end StoreEngine

/-- The documents of a collection and the fields that carry a unique index. -/
structure Collection where
  documents : List Document
  uniqueFields : List String
  deriving Inhabited

/-- Which version of a changed document is returned. -/
inductive Returning where
  | before
  | after
  deriving DecidableEq

/-- The identifier of a document. -/
def Document.id? (document : Document) : Option ObjectId :=
  (Fields.get? document Schema.idField).bind Bson.objectId?

namespace Collection

/-- A collection without documents and unique fields. -/
def empty : Collection := ⟨[], []⟩

/-- The first place of a document with the given identifier. -/
def position? (collection : Collection) (id : ObjectId) : Option Nat :=
  collection.documents.findIdx? fun document => document.id? == some id

/-- All fields that are unique, the identifier first. -/
def indexedFields (collection : Collection) : List String :=
  Schema.idField :: collection.uniqueFields

/-- The value that a document holds under a unique field, unless it is null. -/
def indexed? (document : Document) (field : String) : Option Bson :=
  match Fields.get? document field with
  -- A null counts as no value, so several documents may have it.
  | some .null => none
  | value => value

/-- Whether a document holds the given value under a field. -/
def holds (field : String) (value : Bson) (document : Document) : Bool :=
  match Fields.get? document field with
  | some stored => stored.same value
  | none => false

/-- The first of some fields under which a document holds a value that another document holds, with
that value. -/
def clash? (others : List Document) (candidate : Document) : List String → Option (String × Bson)
  | [] => none
  | field :: rest =>
    match indexed? candidate field with
    | some value =>
      if others.any (holds field value) then some (field, value)
      else clash? others candidate rest
    | none => clash? others candidate rest

/-- The name of the index of a unique field. -/
def indexName (field : String) : String :=
  if field = Schema.idField then "_id_" else field ++ "_1"

/-- The failure for a value that is there already. -/
def duplicate (name field : String) (value : Bson) : StoreError :=
  .duplicateKey name ("E11000 duplicate key error collection: " ++ name ++ " index: " ++
    indexName field ++ " dup key: \x7b " ++ field ++ ": " ++ value.display ++ " \x7d")

/-- Refuses a document that holds a unique value of one of the others. -/
def checkUnique (collection : Collection) (name : String) (others : List Document)
    (candidate : Document) : Except StoreError Unit :=
  match clash? others candidate collection.indexedFields with
  | some (field, value) => .error (duplicate name field value)
  | none => .ok ()

/-- The failure for a document without an identifier. -/
def unidentified (name : String) : StoreError :=
  .invalidDocument ("document without an ObjectId _id in collection " ++ name)

/-- Appends one document. -/
def insert (collection : Collection) (name : String) (document : Document) :
    Except StoreError Collection := do
  if document.id?.isNone then throw (unidentified name)
  -- The whole collection is compared with, as the new document is in none of its places yet.
  collection.checkUnique name collection.documents document
  return { collection with documents := collection.documents ++ [document] }

/-- Appends documents one after another up to the first that is refused. -/
def insertAll (name : String) (collection : Collection) :
    List Document → Except StoreError Unit × Collection
  | [] => (.ok (), collection)
  | document :: rest =>
    match collection.insert name document with
    | .ok larger => insertAll name larger rest
    | .error failure => (.error failure, collection)

/-- Changes the document with the given identifier, if there is one: the versions before and after,
and the collection after. -/
def update (collection : Collection) (name : String) (id : ObjectId) (changes : Fields Bson) :
    Except StoreError (Option (Document × Document × Collection)) :=
  match collection.position? id with
  | none => .ok none
  | some index =>
    match collection.documents[index]? with
    | none => .ok none
    | some before => do
      let after := before.applyChanges changes
      -- The document may keep its own values, so it is not compared with itself.
      collection.checkUnique name (collection.documents.eraseIdx index) after
      return some (before, after,
        { collection with documents := collection.documents.set index after })

/-- Makes a field unique from now on. -/
def addUnique (collection : Collection) (field : String) : Collection :=
  if collection.uniqueFields.contains field then collection
  else { collection with uniqueFields := collection.uniqueFields ++ [field] }

variable (engine : StoreEngine)

/-- The documents that satisfy criteria, sorted. -/
def matching (collection : Collection) (criteria : Criteria) (sort : SortSpec) :
    Except StoreError (List Document) :=
  Matching.filter engine criteria collection.documents >>= engine.arrange sort.keys

/-- The documents that are selected. -/
def select (collection : Collection) (selection : Selection) : Except StoreError (List Document) :=
  (collection.matching engine selection.criteria selection.sort).map fun documents =>
    (selection.slice documents).map (Document.cut selection.projection)

/-- How many documents satisfy criteria. -/
def count (collection : Collection) (criteria : Criteria) : Except StoreError Nat :=
  (Matching.filter engine criteria collection.documents).map List.length

end Collection

/-- Collections by name. -/
structure Store where
  collections : Fields Collection
  deriving Inhabited

namespace Store

/-- A store without collections. -/
def empty : Store := ⟨[]⟩

/-- A collection; one that does not exist is empty. -/
def collection (store : Store) (name : String) : Collection :=
  (Fields.get? store.collections name).getD .empty

/-- Replaces a collection. -/
def withCollection (store : Store) (name : String) (collection : Collection) : Store :=
  ⟨Fields.insert store.collections name collection⟩

/-- The document with an identifier, cut down. -/
def fetch (store : Store) (id : ObjectId) (projection : Projection) (name : String) :
    Option Document :=
  let collection := store.collection name
  (collection.position? id).bind fun index =>
    (collection.documents[index]?).map (Document.cut projection)

/-- The documents with the given identifiers, in the order of the collection. -/
def fetchAll (store : Store) (ids : List ObjectId) (name : String) : List Document :=
  (store.collection name).documents.filter fun document =>
    match document.id? with
    | some id => ids.contains id
    | none => false

/-- Inserts documents one after another up to the first that is refused. -/
def insertAll (store : Store) (documents : List Document) (name : String) :
    Except StoreError Unit × Store :=
  let (outcome, collection) := (store.collection name).insertAll name documents
  (outcome, store.withCollection name collection)

/-- Changes the document with an identifier and returns one of its versions, if there is one. -/
def update (store : Store) (id : ObjectId) (changes : Fields Bson) (returning : Returning)
    (name : String) : Except StoreError (Option Document) × Store :=
  match (store.collection name).update name id changes with
  -- Only a change that is carried out touches the collections.
  | .error failure => (.error failure, store)
  | .ok none => (.ok none, store)
  | .ok (some (before, after, collection)) =>
    (.ok (some (match returning with | .before => before | .after => after)),
      store.withCollection name collection)

/-- Creates an index. Only unique ones make a difference. -/
def createIndex (store : Store) (name field : String) (unique : Bool) : Store :=
  if unique then store.withCollection name ((store.collection name).addUnique field) else store

/-- Removes a collection with its indexes. -/
def drop (store : Store) (name : String) : Store :=
  ⟨store.collections.filter (·.1 ≠ name)⟩

variable (engine : StoreEngine)

/-- The documents that are selected. -/
def select (store : Store) (selection : Selection) (name : String) :
    Except StoreError (List Document) :=
  (store.collection name).select engine selection

/-- How many documents satisfy criteria. -/
def count (store : Store) (criteria : Criteria) (name : String) : Except StoreError Nat :=
  (store.collection name).count engine criteria

end Store

end DocumentApi
