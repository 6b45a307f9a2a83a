import DocumentApi.Proofs.Schema.Preparation
import DocumentApi.Proofs.Service.Run
import DocumentApi.Proofs.Store.Batch

/-!
# Failed requests

A request that is not answered as a success leaves every collection as it is, its documents in
their order and its unique fields. The one exception is an insertion of several documents that meets
a duplicate: the documents before the duplicate are in the collection already, and stay there.

* `Service.Outcome.failed_cases` — a failed request leaves the store as it is, or its insertion
  stopped at a document, which `Service.StoppedAt` tells exactly;
* `Service.intact_of_failed` — the two cases are told apart by the response, which is a conflict in
  answer to an insertion if this stopped, and not otherwise.

An insertion can also be refused because a document has no identifier. This never happens to
prepared documents (`Operation.isSome_id?_of_prepareAll`).
-/

namespace DocumentApi

namespace Service

open Operation

/-- Whether a store has the collections of another one: the same documents in the same order, and
the same unique fields. -/
def Intact (store after : Store) : Prop :=
  ∀ name, after.collection name = store.collection name

/-- A collection in its own place makes no difference. -/
theorem intact_withCollection (store : Store) (name : String) :
    Intact store (store.withCollection name (store.collection name)) := by
  intro other
  rw [Store.collection_withCollection]
  split
  · next heq => rw [heq]
  · rfl

/-- Whether an insertion stopped at a place of its documents. All objects of the body were
prepared. The document at the place is the first that is refused as a duplicate, the documents
before it are appended, and all else is as it was. -/
structure StoppedAt (schema : Schema) (ids : Nat → ObjectId) (request : Request)
    (store after : Store) (documents : List Document) (place : Nat) (failure : StoreError) :
    Prop where
  prepared : ∃ objects, request.Carries objects ∧ prepareAll schema ids 0 objects = .ok documents
  firstRefused : (store.collection schema.collection).FirstRefused schema.collection documents place
    failure
  duplicate : ∃ detail, failure = .duplicateKey schema.collection detail
  appended : after.collection schema.collection
    = (store.collection schema.collection).append (documents.take place)
  others : ∀ name, name ≠ schema.collection → after.collection name = store.collection name

variable (engine : StoreEngine) {schema : Schema} {ids : Nat → ObjectId} {request : Request}
  {store after : Store} {response : Response}

/-- A response to an insertion that met a duplicate. -/
theorem StoppedAt.status_eq {documents : List Document} {place : Nat} {failure : StoreError}
    (h : StoppedAt schema ids request store after documents place failure) :
    (failed failure).status = Status.conflict := by
  obtain ⟨detail, rfl⟩ := h.duplicate
  rfl

/-- **A failed request** leaves the store as it is, or its insertion stopped. -/
theorem Outcome.failed_cases (houtcome : Outcome schema ids request store response after)
    (hfailed : response.isSuccess = false) :
    (Intact store after ∧ (request.method = "POST" → BeforeInsertion response)) ∨
      (request.method = "POST" ∧ ∃ documents place failure, response = failed failure ∧
        StoppedAt schema ids request store after documents place failure) := by
  -- Of the six ways out of a request three are failures, and of these one writes something.
  cases houtcome with
  | read hmethod =>
    -- A read is no insertion, so that the second half has nothing to say.
    exact Or.inl ⟨fun _ => rfl, fun hpost => absurd (hmethod.symm.trans hpost) (by decide)⟩
  | refused _ hpost => exact Or.inl ⟨fun _ => rfl, hpost⟩
  | inserted => cases hfailed
  | @stopped objects documents failure _ hmethod hobjects hdocuments hinsert =>
    -- The documents have been prepared, so none of them lacks an identifier.
    have hids := isSome_id?_of_prepareAll hdocuments
    obtain ⟨hothers, ⟨hok, -⟩ | ⟨place, found, hrefused, herror, happended⟩⟩ :=
      Store.insertAll_cases hids hinsert
    · -- Not all documents were inserted, since the insertion failed.
      cases hok
    · cases herror
      -- Only the check of unique fields can have refused the document.
      obtain ⟨document, -, hcheck⟩ := hrefused.2
      exact Or.inr ⟨hmethod, documents, place, failure, rfl, ⟨objects, hobjects, hdocuments⟩,
        hrefused, Collection.exists_duplicateKey hcheck, happended, hothers⟩
  | changed => cases hfailed
  | deactivated => cases hfailed

variable (schema ids request store)

/-- **Failed requests.** If a request is not answered as a success, then

* an insertion that is answered with a conflict stopped at the first of its documents that is
  refused as a duplicate, and the documents before this one are appended, with no other change;
* any other request leaves all collections as they are;
* no insertion fails for a document without an identifier. -/
theorem intact_of_failed
    (hfailed : (Service.response engine schema ids request store).isSuccess = false) :
    (request.method = "POST" →
      (Service.response engine schema ids request store).status = Status.conflict →
      ∃ documents place failure,
        Service.response engine schema ids request store = failed failure ∧
        StoppedAt schema ids request store ((Event.request schema ids request).after engine store)
          documents place failure) ∧
    (¬ (request.method = "POST" ∧
        (Service.response engine schema ids request store).status = Status.conflict) →
      Intact store ((Event.request schema ids request).after engine store)) ∧
    (request.method = "POST" →
      ∀ detail, Service.response engine schema ids request store
        ≠ failed (.invalidDocument detail)) := by
  rcases (outcome engine schema ids store request).failed_cases hfailed with
    ⟨hintact, hbefore⟩ | ⟨hpost, documents, place, failure, hresponse, hstopped⟩
  · refine ⟨?_, ?_, ?_⟩
    · -- An insertion that changed nothing did not meet a duplicate, so that its status is another
      -- one.
      intro hpost hconflict
      exact absurd hconflict (hbefore hpost).1
    · exact fun _ => hintact
    · exact fun hpost => (hbefore hpost).2
  · -- An insertion that stopped is answered with a conflict, which only the first part is about.
    have hconflict : (Service.response engine schema ids request store).status
        = Status.conflict :=
      (congrArg Response.status hresponse).trans hstopped.status_eq
    refine ⟨?_, ?_, ?_⟩
    · exact fun _ _ => ⟨documents, place, failure, hresponse, hstopped⟩
    · exact fun hother => absurd ⟨hpost, hconflict⟩ hother
    · -- A conflict is no failure of the server.
      intro _ detail hinvalid
      rw [hinvalid] at hconflict
      cases hconflict

/-- A store with one item. -/
def oneItem : Store :=
  ⟨[("items", ⟨[[("_id", .objectId (.ofNat 7)), ("n", .int32 1)]], []⟩)]⟩

/-- Two items, the second of which is there already. -/
def twoItems : Request :=
  (Request.ofMethod "POST").withJsonContent.withBody
    (.arr [.obj [("_id", .str (ObjectId.ofNat 8).toHex)],
      .obj [("_id", .str (ObjectId.ofNat 7).toHex)]])

/-- The insertion of two items stops at the second one, and the first one stays. -/
theorem intact_of_failed_twoItems :
    (Service.response .withoutPatterns (.ofFields "items" []) ObjectId.ofNat twoItems
        oneItem).isSuccess = false ∧
      ∃ documents failure,
        StoppedAt (.ofFields "items" []) ObjectId.ofNat twoItems oneItem
          ((Event.request (.ofFields "items" []) ObjectId.ofNat twoItems).after .withoutPatterns
            oneItem) documents 1 failure := by
  refine ⟨by decide +kernel, ?_⟩
  -- The store has the second item already, so that the first part applies.
  obtain ⟨documents, place, failure, -, hstopped⟩ :=
    (intact_of_failed .withoutPatterns (.ofFields "items" []) ObjectId.ofNat twoItems oneItem
      (by decide +kernel)).1 rfl (by decide +kernel)
  -- One item has been added, and it stood before the place.
  have hlength : (((Event.request (.ofFields "items" []) ObjectId.ofNat twoItems).after
      .withoutPatterns oneItem).collection "items").documents.length = 2 := by
    decide +kernel
  have happended := congrArg (fun collection => collection.documents.length) hstopped.appended
  obtain ⟨-, refused, hrefused, -⟩ := hstopped.firstRefused
  have hplace : place < documents.length := (List.getElem?_eq_some_iff.mp hrefused).1
  have hone : place = 1 := by
    -- The place is read off from the number of items in the collection.
    change (((Event.request (.ofFields "items" []) ObjectId.ofNat twoItems).after
      .withoutPatterns oneItem).collection "items").documents.length
        = ([_] ++ documents.take place).length at happended
    rw [hlength, List.length_append, List.length_singleton, List.length_take] at happended
    omega
  exact ⟨documents, failure, hone ▸ hstopped⟩

end Service

end DocumentApi
