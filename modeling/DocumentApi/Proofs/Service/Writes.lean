import DocumentApi.Proofs.Service.Failure
import DocumentApi.Proofs.Store.Places

/-!
# Declared effects

What a request that is answered as a success does is known from its method: a read changes nothing,
an insertion appends the documents that its response shows, and a change or a deactivation replaces
the one document with the given identifier in its place.

* `Service.Written` — the documents of the collection afterwards, case by case;
* `Service.DeclaredEffect` — the same with everything that stays: the unique fields of the
  collection and all other collections;
* `Service.Outcome.declaredEffect` — every success has its declared effect, if no identifier of the
  collection stands at two places.
-/

namespace DocumentApi

/-- A deactivation sets one field. -/
theorem Document.applyChanges_deactivation (document : Document) :
    document.applyChanges Operation.deactivation
      = Fields.insert document Schema.activeField (.bool false) := by
  -- The name of the field has no dots, so that the change is a plain insertion.
  have hsegments : segments Schema.activeField = [Schema.activeField] := by decide
  unfold applyChanges Operation.deactivation
  rw [List.foldl_cons, List.foldl_nil, applyChange, hsegments, setAt]

namespace Service

open Operation

/-- The documents of a collection after a success, with what the response then shows. -/
inductive Written (schema : Schema) (ids : Nat → ObjectId) (request : Request)
    (collection : Collection) : Response → List Document → Prop
  /-- A read changes nothing. -/
  | read {response : Response} (hmethod : request.method = "GET") :
      Written schema ids request collection response collection.documents
  /-- An insertion appends one document for each object of the body, in the order of the body, and
  shows these documents. -/
  | inserted {objects : List (Fields Json)} {documents : List Document}
      (hmethod : request.method = "POST") (hobjects : request.Carries objects)
      (hlength : documents.length = objects.length)
      (hprepared : ∀ (place : Nat) (object : Fields Json), objects[place]? = some object →
        ∃ document, documents[place]? = some document ∧
          schema.newDocument (ids place) object = .ok document) :
      Written schema ids request collection
        (.withBody Status.created (Envelope.ofList documents).normalize)
        (collection.documents ++ documents)
  /-- A change replaces the only document with the identifier by the changed one, and shows this. -/
  | changed {fields : Fields Json} {changes : Fields Bson} {id : ObjectId} {place : Nat}
      {document : Document} (hmethod : request.method = "PATCH") (hid : request.id? = some id)
      (hbody : request.body = some (.obj fields)) (hchanges : schema.changes fields = .ok changes)
      (hat : collection.IsAt id place document) :
      Written schema ids request collection
        (.withBody Status.ok (document.applyChanges changes).normalize)
        (collection.documents.set place (document.applyChanges changes))
  /-- A deactivation replaces the only document with the identifier by one that differs from it in
  being inactive. -/
  | deactivated {id : ObjectId} {place : Nat} {document : Document}
      (hmethod : request.method = "DELETE") (hid : request.id? = some id)
      (hat : collection.IsAt id place document) :
      Written schema ids request collection (.withBody Status.ok (Operation.deactivated id))
        (collection.documents.set place
          (Fields.insert document Schema.activeField (.bool false)))

/-- **The declared effect** of a request: nothing is written but what its method says. -/
structure DeclaredEffect (schema : Schema) (ids : Nat → ObjectId) (request : Request)
    (response : Response) (store after : Store) : Prop where
  written : Written schema ids request (store.collection schema.collection) response
    (after.collection schema.collection).documents
  uniqueFields : (after.collection schema.collection).uniqueFields
    = (store.collection schema.collection).uniqueFields
  others : ∀ name, name ≠ schema.collection → after.collection name = store.collection name

variable {schema : Schema} {ids : Nat → ObjectId} {request : Request} {store after : Store}
  {response : Response}

/-- **A success** has its declared effect. -/
theorem Outcome.declaredEffect (houtcome : Outcome schema ids request store response after)
    (hsuccess : response.isSuccess = true)
    (hdistinct : (store.collection schema.collection).DistinctIds) :
    DeclaredEffect schema ids request response store after := by
  -- Each way out of a request is looked at; those without success are ruled out by the response.
  cases houtcome with
  | read hmethod => exact ⟨.read hmethod, rfl, fun _ _ => rfl⟩
  | refused hfailed =>
    -- A refusal is no success.
    rw [hfailed] at hsuccess
    cases hsuccess
  | @inserted objects documents _ hmethod hobjects hdocuments hinsert =>
    -- Every prepared document has an identifier, so that only a duplicate could stop the insertion.
    have hids := isSome_id?_of_prepareAll hdocuments
    obtain ⟨hothers, ⟨-, happended⟩ | ⟨_, _, -, herror, -⟩⟩ :=
      Store.insertAll_cases hids hinsert
    · refine ⟨?_, ?_, hothers⟩
      · rw [happended]
        refine .inserted hmethod hobjects (length_of_prepareAll hdocuments) ?_
        -- The document for an object is the one that was prepared from it, under the identifier of
        -- its place.
        intro place object hobject
        have hplace := getElem?_of_prepareAll hdocuments place
        rw [hobject, Option.map_some, Option.map_eq_some_iff, Nat.zero_add] at hplace
        obtain ⟨document, hdocument, hnew⟩ := hplace
        exact ⟨document, hdocument, hnew.symm⟩
      · rw [happended, Collection.append]
    · -- A duplicate is answered as a failure, but all documents were inserted.
      cases herror
  | @stopped _ _ failure =>
    -- Nor is an insertion that is stopped by a duplicate.
    rw [isSuccess_failed failure] at hsuccess
    cases hsuccess
  | @changed fields changes id answer _ hmethod hid hbody hchanges hupdate =>
    -- The store finds the first document with the identifier, which by distinctness is the only
    -- one.
    obtain ⟨place, document, hplace, hdocument, -, hanswer, hset, hothers⟩ :=
      Store.update_eq_ok hupdate
    refine ⟨?_, ?_, hothers⟩
    · rw [hset, hanswer rfl]
      exact .changed hmethod hid hbody hchanges (hdistinct.isAt hplace hdocument)
    · -- The list of unique fields is handed on with the rest of the collection.
      rw [hset]
  | @deactivated id previous _ hmethod hid hupdate =>
    obtain ⟨place, document, hplace, hdocument, hanswer, -, hset, hothers⟩ :=
      Store.update_eq_ok hupdate
    -- Here, too, the document that is found is the only one with the identifier.
    have hat := hdistinct.isAt hplace hdocument
    refine ⟨?_, ?_, hothers⟩
    · -- The response names the identifier of the version before, which is that of the request.
      rw [hset, hanswer rfl, hat.id?_eq, Option.getD_some, Document.applyChanges_deactivation]
      exact .deactivated hmethod hid hat
    · rw [hset]

end Service

end DocumentApi
