import DocumentApi.Proofs.Service.Outcome
import DocumentApi.Proofs.Store.Run

/-!
# Runs of a service

What happens to a store in memory behind a service: the unique indexes of schemas are created, and
requests are answered.

* `Service.effect` — all that a request can do to the store, read off from what it comes to
  (`Service.outcome`);
* `Service.Event`, `Service.reached` — the events of a service and the stores of its runs;
  initializing a schema makes its unique fields unique (`collection_init`) and changes no documents
  (`documents_init`);
* `Service.Event.collection_induction` — what every event keeps.
-/

namespace DocumentApi

namespace Service

open Operation

/-- What an answered request can have done to the store. -/
inductive Effect (schema : Schema) (request : Request) (store : Store) : Response → Store → Prop
  /-- Nothing; a request to insert or to change then fails. -/
  | none {response : Response}
      (hfailed : request.method = "POST" ∨ request.method = "PATCH" →
        response.isSuccess = false) : Effect schema request store response store
  /-- It inserted all documents. -/
  | created {documents : List Document} {after : Store} (hmethod : request.method = "POST")
      (hinsert : store.insertAll documents schema.collection = (.ok (), after)) :
      Effect schema request store
        (.withBody Status.created (Envelope.ofList documents).normalize) after
  /-- It inserted the documents before one that is refused. -/
  | refused {documents : List Document} {response : Response} (hmethod : request.method = "POST")
      (hfailed : response.isSuccess = false) :
      Effect schema request store response (store.insertAll documents schema.collection).2
  /-- It changed a document. -/
  | changed {fields : Fields Json} {changes : Fields Bson} {id : ObjectId} {document : Document}
      {after : Store} (hmethod : request.method = "PATCH")
      (hbody : request.body = some (.obj fields)) (hchanges : schema.changes fields = .ok changes)
      (hupdate : store.update id changes .after schema.collection
        = (.ok (some document), after)) :
      Effect schema request store (.withBody Status.ok document.normalize) after
  /-- It deactivated a document, or tried to. -/
  | deactivated {response : Response} (id : ObjectId) (hmethod : request.method = "DELETE") :
      Effect schema request store response
        (store.update id deactivation .before schema.collection).2

/-- Each outcome has one of these effects. -/
theorem Outcome.effect {schema : Schema} {ids : Nat → ObjectId} {request : Request}
    {store after : Store} {response : Response}
    (houtcome : Outcome schema ids request store response after) :
    Effect schema request store response after := by
  cases houtcome with
  -- A read has another method than those that the premise names.
  | read hmethod => exact .none fun h => absurd h (by simp [hmethod])
  | refused hfailed => exact .none fun _ => hfailed
  | inserted hmethod _ _ hinsert => exact .created hmethod hinsert
  | @stopped _ documents _ _ hmethod _ _ hinsert =>
    -- The documents before the refused one are in the store.
    have hafter : after = (store.insertAll documents schema.collection).2 := by rw [hinsert]
    rw [hafter]
    exact .refused hmethod (isSuccess_failed _)
  | changed hmethod _ hbody hchanges hupdate => exact .changed hmethod hbody hchanges hupdate
  | @deactivated id _ _ hmethod _ hupdate =>
    -- The response shows the version before; what matters here is the store after.
    have hafter : after = (store.update id deactivation .before schema.collection).2 := by
      rw [hupdate]
    rw [hafter]
    exact .deactivated id hmethod

variable (engine : StoreEngine) (schema : Schema) (store : Store) (ids : Nat → ObjectId)
  (request : Request)

/-- **What a request can do to the store.** -/
theorem effect :
    Effect schema request store ((answer (.inMemory engine) schema ids request).run store).1
      ((answer (.inMemory engine) schema ids request).run store).2 :=
  (outcome engine schema ids store request).effect

/-! ### Events -/

/-- The response to a request. -/
def response (schema : Schema) (ids : Nat → ObjectId) (request : Request) (store : Store) :
    Response :=
  ((answer (.inMemory engine) schema ids request).run store).1

/-- What happens to a service: the unique indexes of a schema are created, or a request on its
collection is answered, with fresh identifiers at hand. -/
inductive Event where
  | init (schema : Schema)
  | request (schema : Schema) (ids : Nat → ObjectId) (request : Request)

/-- The store after an event. -/
def Event.after (store : Store) : Event → Store
  | .init schema => (StoreM.perform (Backend.createIndexes (.inMemory engine) schema) store).2
  | .request schema ids request => ((answer (.inMemory engine) schema ids request).run store).2

/-- The store after so many of some events. -/
def reached (events : List Event) (count : Nat) : Store :=
  Store.reached (Event.after engine) events count

theorem reached_succ {events : List Event} {count : Nat} {event : Event}
    (h : events[count]? = some event) :
    reached engine events (count + 1) = event.after engine (reached engine events count) :=
  Store.reached_succ _ h

private theorem perform_forM_createIndex (collection : String) (fields : List String) :
    StoreM.perform
        (fields.forM fun field => (Backend.inMemory engine).createIndex collection field true) store
      = (.ok (), fields.foldl (fun store field => store.createIndex collection field true)
          store) := by
  -- By induction on the fields, with the store left open, since each index is created in the store
  -- that the one before it leaves.
  induction fields generalizing store with
  | nil => rfl
  | cons field rest ih =>
    rw [List.forM, StoreM.perform_bind, StoreM.perform_createIndex]
    exact ih _

/-- **Initializing a schema** makes its unique fields unique in its collection. -/
theorem collection_init (name : String) :
    ((Event.init schema).after engine store).collection name
      = if schema.collection = name
        then schema.uniqueFields.foldl Collection.addUnique (store.collection name)
        else store.collection name := by
  unfold Event.after Backend.createIndexes
  simp only
  rw [perform_forM_createIndex]
  -- One index after the other; only those of the collection with this name are seen.
  induction schema.uniqueFields generalizing store with
  | nil => simp
  | cons field rest ih =>
    rw [List.foldl_cons, ih, Store.collection_createIndex, List.foldl_cons]
    by_cases hname : schema.collection = name
    · subst hname
      simp
    · simp [hname]

theorem mem_indexedFields_init {field : String} (h : field ∈ schema.uniqueFields) :
    field ∈ (((Event.init schema).after engine store).collection
      schema.collection).indexedFields := by
  rw [collection_init, if_pos rfl]
  exact Collection.mem_indexedFields_foldl_addUnique.mpr (Or.inr h)

/-- **What every event keeps.** A property of a collection holds after an event if insertions,
changes and new indexes keep it. -/
theorem Event.collection_induction (event : Event) {name : String} {motive : Collection → Prop}
    (h : motive (store.collection name))
    (hinsert : ∀ documents, motive ((store.collection name).insertAll name documents).2)
    (hchange : ∀ id changes, motive ((store.collection name).changed name id changes))
    (hindex : ∀ collection field, motive collection → motive (collection.addUnique field)) :
    motive ((event.after engine store).collection name) := by
  cases event with
  -- Indexes are created one after another, and each of them keeps the property.
  | init schema =>
    rw [collection_init]
    split
    · exact List.foldlRecOn schema.uniqueFields Collection.addUnique h
        fun collection hcollection field _ => hindex collection field hcollection
    · exact h
  | request schema ids request =>
    -- A request leaves the collection alone, inserts into it or changes a document of it.
    rcases (outcome engine schema ids store request).collection_cases name with
      hsame | ⟨-, ⟨documents, hinserted⟩ | ⟨id, changes, hchanged⟩⟩
    · exact hsame ▸ h
    · exact hinserted ▸ hinsert documents
    · exact hchanged ▸ hchange id changes

/-- Creating indexes changes no documents. -/
theorem documents_init (name : String) :
    (((Event.init schema).after engine store).collection name).documents
      = (store.collection name).documents := by
  rw [collection_init]
  split
  · exact List.foldlRecOn (motive := fun collection =>
      collection.documents = (store.collection name).documents) schema.uniqueFields
      Collection.addUnique rfl fun collection hcollection field _ =>
        (Collection.documents_addUnique field).trans hcollection
  · rfl

end Service

end DocumentApi
