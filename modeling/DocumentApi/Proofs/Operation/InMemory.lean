import DocumentApi.Proofs.Population.Pointwise
import DocumentApi.Service

/-!
# The operations on a store in memory

Each of the five operations, carried out on a store in memory, as a plain function of the store: its
response and the store after it, with every way out in the order in which it is met.

* `read_run`, `list_run` — reads, which leave the store as it is;
* `create_run`, `change_run`, `deactivate_run` — writes.

A list read asks for the count and for the page by two operations of the store. Both are about the
same documents, those that satisfy the criteria, so that `listed` mentions them once.
-/

namespace DocumentApi

namespace Operation

variable (engine : StoreEngine) (schema : Schema) (store : Store)

/-- The response to a failure of the store. -/
def failed (failure : StoreError) : Response :=
  (Refusal.ofStoreError failure).toResponse

/-- No failure of the store is a success. -/
theorem isSuccess_failed (failure : StoreError) : (failed failure).isSuccess = false := by
  cases failure <;> rfl

/-- **Reading one document.** -/
theorem read_run (id : String) (projection : Projection) (population : Population) :
    (read (.inMemory engine) schema id projection population).run store =
      match ObjectId.ofHex? id with
      | none => (failed (.invalidId id), store)
      | some oid =>
        match store.fetch oid projection schema.collection with
        | none => (.bare Status.notFound, store)
        | some document =>
          (.withBody Status.ok (Population.resolveIn store schema population document).normalize,
            store) := by
  unfold read readId
  rw [run_respond, StoreM.perform_bind, StoreM.perform_check, ObjectId.read]
  -- A text that is no identifier is refused before the store is asked.
  cases ObjectId.ofHex? id with
  | none => rfl
  | some oid =>
    simp only [Except.mapError]
    rw [StoreM.perform_bind, StoreM.perform_onStore]
    simp only [StoreM.perform_fetch]
    cases store.fetch oid projection schema.collection with
    | none => rfl
    | some document =>
      -- A list of one document is resolved, and a list of one document comes back.
      simp only
      rw [StoreM.perform_bind, StoreM.perform_onStore]
      rw [Population.perform_resolve]
      rfl

/-- **The list of some documents**: those that satisfy the criteria are counted, arranged and cut
into pages, and each of the page is cut down and resolved in the store. -/
def listed (listing : Listing) (documents : List Document) : Response :=
  match Matching.filter engine listing.effectiveCriteria documents with
  | .error failure => failed failure
  | .ok matched =>
    match engine.arrange listing.sort.keys matched with
    | .error failure => failed failure
    | .ok arranged =>
      .withBody Status.ok (Envelope.normalize
        ((Envelope.ofList ((listing.selection.slice arranged).map fun document =>
            Population.resolveIn store schema listing.population
              (Document.cut listing.projection document))).withPage
          listing.page? matched.length))

/-- **Reading a list** lists the documents of the collection and leaves the store as it is. -/
theorem list_run (listing : Listing) :
    (list (.inMemory engine) schema listing).run store
      = (listed engine schema store listing (store.collection schema.collection).documents,
        store) := by
  unfold list listed
  rw [run_respond, StoreM.perform_bind, StoreM.perform_onStore]
  simp only [StoreM.perform_count, Store.count, Collection.count]
  -- The documents are counted first, so that a failing pattern ends the read here.
  cases hmatched : Matching.filter engine listing.effectiveCriteria
      (store.collection schema.collection).documents with
  | error failure => rfl
  | ok matched =>
    -- The read of the page filters once more, with the same outcome, before it sorts.
    have hselected : store.select engine listing.selection schema.collection
        = (engine.arrange listing.sort.keys matched).map fun arranged =>
            (listing.selection.slice arranged).map (Document.cut listing.projection) := by
      unfold Store.select Collection.select Collection.matching
      simp only [Listing.selection]
      rw [hmatched]
      rfl
    simp only [Except.map]
    rw [StoreM.perform_bind, StoreM.perform_onStore]
    simp only [StoreM.perform_select, hselected]
    -- The page may fail to be arranged, and resolving it cannot fail.
    cases engine.arrange listing.sort.keys matched with
    | error failure => rfl
    | ok arranged =>
      simp only [Except.map]
      rw [StoreM.perform_bind, StoreM.perform_onStore, Population.perform_resolve]
      simp only [StoreM.perform_pure, List.map_map]
      rfl

/-- **Inserting.** The objects of the body are prepared before the first of them is inserted; those
before one that is refused stay in the store. -/
theorem create_run (ids : Nat → ObjectId) (request : Request) :
    (create (.inMemory engine) schema ids request).run store =
      match request.checkWrite with
      | .error refusal => (refusal.toResponse, store)
      | .ok body =>
        match prepareAll schema ids 0 (objectsOf body) with
        | .error cause => (failed (cause.toStoreError schema.collection), store)
        | .ok documents =>
          match store.insertAll documents schema.collection with
          | (.error failure, after) => (failed failure, after)
          | (.ok _, after) =>
            (.withBody Status.created (Envelope.ofList documents).normalize, after) := by
  unfold create prepared
  rw [run_respond, StoreM.perform_bind, StoreM.perform_check]
  -- Check by check, each of which ends the operation if it fails.
  cases request.checkWrite with
  | error refusal => rfl
  | ok body =>
    simp only
    rw [StoreM.perform_bind, StoreM.perform_check]
    -- All objects are prepared before the store is touched.
    cases prepareAll schema ids 0 (objectsOf body) with
    | error cause => rfl
    | ok documents =>
      -- The store after a failed insertion is the one up to the refused document.
      simp only [Except.mapError]
      rw [StoreM.perform_bind, StoreM.perform_onStore]
      simp only [StoreM.perform_insert]
      rcases store.insertAll documents schema.collection with ⟨outcome, after⟩
      cases outcome <;> rfl

/-- **Changing one document.** -/
theorem change_run (request : Request) (id : Option String) :
    (change (.inMemory engine) schema request id).run store =
      match request.checkWrite with
      | .error refusal => (refusal.toResponse, store)
      | .ok body =>
        match Request.checkId id .invalid with
        | .error refusal => (refusal.toResponse, store)
        | .ok text =>
          match body.object? with
          | none => (Refusal.invalid.toResponse, store)
          | some fields =>
            match schema.changes fields with
            | .error cause => (failed (cause.toStoreError schema.collection), store)
            | .ok changes =>
              if changes.isEmpty then (Refusal.invalid.toResponse, store)
              else match ObjectId.ofHex? text with
                | none => (failed (.invalidId text), store)
                | some oid =>
                  match store.update oid changes .after schema.collection with
                  | (.error failure, after) => (failed failure, after)
                  | (.ok none, after) => (Refusal.missing.toResponse, after)
                  | (.ok (some document), after) =>
                    (.withBody Status.ok document.normalize, after) := by
  unfold change prepared readId
  rw [run_respond, StoreM.perform_bind, StoreM.perform_check]
  -- The checks are made in this order: body, identifier, kind of body, changes.
  cases request.checkWrite with
  | error refusal => rfl
  | ok body =>
    simp only
    rw [StoreM.perform_bind, StoreM.perform_check]
    cases Request.checkId id .invalid with
    | error refusal => rfl
    | ok text =>
      cases body with
      | obj fields =>
        simp only [Json.object?]
        rw [StoreM.perform_bind, StoreM.perform_check]
        cases schema.changes fields with
        | error cause => rfl
        | ok changes =>
          simp only [Except.mapError]
          -- Without changes the request is malformed, whatever document it names.
          by_cases hempty : changes.isEmpty
          · rw [if_pos hempty, if_pos hempty]
            rfl
          · rw [if_neg hempty, if_neg hempty, StoreM.perform_bind, StoreM.perform_check,
              ObjectId.read]
            cases ObjectId.ofHex? text with
            | none => rfl
            | some oid =>
              simp only
              rw [StoreM.perform_bind, StoreM.perform_onStore]
              simp only [StoreM.perform_update]
              rcases store.update oid changes .after schema.collection with ⟨outcome, after⟩
              rcases outcome with _ | _ | document <;> rfl
      | _ => rfl

/-- **Deactivating one document.** -/
theorem deactivate_run (id : Option String) :
    (deactivate (.inMemory engine) schema id).run store =
      match Request.checkId id .missing with
      | .error refusal => (refusal.toResponse, store)
      | .ok text =>
        match ObjectId.ofHex? text with
        | none => (failed (.invalidId text), store)
        | some oid =>
          match store.update oid deactivation .before schema.collection with
          | (.error failure, after) => (failed failure, after)
          | (.ok none, after) => (.bare Status.badRequest, after)
          | (.ok (some previous), after) =>
            (.withBody Status.ok (deactivated (previous.id?.getD oid)), after) := by
  unfold deactivate readId
  rw [run_respond, StoreM.perform_bind, StoreM.perform_check]
  -- The identifier is checked in another way here, as one that is missing.
  cases Request.checkId id .missing with
  | error refusal => rfl
  | ok text =>
    simp only
    rw [StoreM.perform_bind, StoreM.perform_check, ObjectId.read]
    cases ObjectId.ofHex? text with
    | none => rfl
    | some oid =>
      simp only [Except.mapError]
      rw [StoreM.perform_bind, StoreM.perform_onStore]
      simp only [StoreM.perform_update]
      rcases store.update oid deactivation .before schema.collection with ⟨outcome, after⟩
      rcases outcome with _ | _ | previous <;> rfl

end Operation

end DocumentApi
