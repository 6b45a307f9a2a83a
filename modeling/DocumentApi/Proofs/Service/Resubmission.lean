import DocumentApi.Proofs.Schema.Rereading
import DocumentApi.Proofs.Service.ReadBack
import DocumentApi.Proofs.Service.Writes

/-!
# Objects that are sent again

The object of an insertion may be sent once more, to change the document that was made from it. The
two requests read the object in different ways (`DocumentApi.Proofs.Schema.Rereading`), and where
they come to the same place the second one changes nothing:

* `Service.settled_of_created` — a document that was inserted alone stands in its collection as it
  was prepared, under an identifier of its own;
* `Service.changesNothing_of_settled` — an object whose changes leave such a document as it is
  `ChangesNothing`, and is answered with the document;
* `Service.leavesFixed_of_newDocument` — the two together (`Service.LeavesFixed`), with the objects
  of which this is true.
-/

namespace DocumentApi

/-- Whether a request changes the document with an identifier by the fields of an object. -/
structure Request.ChangesBy (request : Request) (id : ObjectId) (object : Fields Json) : Prop where
  method_eq : request.method = "PATCH"
  contentType : request.checkContentType = .ok ()
  id?_eq : request.id? = some id
  body_eq : request.body = some (.obj object)

/-- A change by an object with a field passes the check of writes. -/
theorem Request.ChangesBy.checkWrite_eq {request : Request} {id : ObjectId} {object : Fields Json}
    (h : request.ChangesBy id object) (hobject : object ≠ []) :
    request.checkWrite = .ok (.obj object) := by
  -- An object with a field is not empty, which is all that the check asks of it.
  have hacceptable : isAcceptable (.obj object) = true := by
    cases object with
    | nil => exact absurd rfl hobject
    | cons field rest => rfl
  have hbody : request.checkBody = .ok (.obj object) := by
    unfold checkBody
    rw [h.body_eq]
    exact if_pos hacceptable
  unfold checkWrite
  rw [h.contentType, hbody]
  rfl

namespace Service

open Operation

/-- Whether changing the document with an identifier by an object is answered with a document, and
leaves the collections of a store as they are. -/
def ChangesNothing (engine : StoreEngine) (schema : Schema) (store : Store) (id : ObjectId)
    (object : Fields Json) (document : Document) : Prop :=
  ∀ (ids : Nat → ObjectId) (request : Request), request.ChangesBy id object →
    response engine schema ids request store = .withBody Status.ok document.normalize ∧
      Intact store ((Event.request schema ids request).after engine store)

section

variable {engine : StoreEngine} {schema : Schema} {store : Store} {ids : Nat → ObjectId}
  {request : Request} {id : ObjectId} {object : Fields Json} {document : Document}

/-! ### The insertion -/

/-- **A document that was inserted alone** is answered as it was prepared, and is settled. -/
theorem settled_of_created (hprepared : schema.newDocument (ids 0) object = .ok document)
    (hmethod : request.method = "POST") (hbody : request.body = some (.obj object))
    (hstatus : (response engine schema ids request store).status = Status.created) :
    ∃ id, document.id? = some id ∧
      (response engine schema ids request store).body
        = some (Envelope.toJson (.ofList [document.normalize])) ∧
      (((Event.request schema ids request).after engine store).collection
        schema.collection).Settled schema.collection id document := by
  obtain ⟨objects, documents, hobjects, hdocuments, hinsert, hresponse⟩ :=
    (outcome engine schema ids store request).insertAll_of_created hmethod hstatus
  -- The body is one object, so there is one document.
  have hone : objects = [object] := by
    obtain ⟨sent, hsent, rfl⟩ | hitems := hobjects
    · cases hsent.symm.trans hbody
      rfl
    · cases hitems.symm.trans hbody
  rw [hone, prepareAll, hprepared] at hdocuments
  cases hdocuments
  obtain ⟨id, hid⟩ := Option.isSome_iff_exists.mp (Schema.isSome_id?_of_newDocument hprepared)
  -- The one document is inserted before no others, so what is left is its own insertion.
  obtain ⟨larger, hlarger, hafter⟩ :=
    Collection.insertAll_cons_eq_ok (Store.collection_of_insertAll_eq_ok hinsert)
  have hcollection : larger
      = ((Event.request schema ids request).after engine store).collection schema.collection :=
    congrArg Prod.snd hafter
  refine ⟨id, hid, ?_, ?_⟩
  · unfold response
    rw [hresponse, normalize_ofList]
    rfl
  · rw [← hcollection]
    exact Collection.settled_of_insert hlarger hid

/-! ### The change -/

/-- **An object that makes no difference** to a settled document changes nothing. -/
theorem changesNothing_of_settled {changes : Fields Bson}
    (hchanges : schema.changes object = .ok changes) (hne : changes ≠ [])
    (hsame : document.applyChanges changes = document)
    (hsettled : (store.collection schema.collection).Settled schema.collection id document) :
    ChangesNothing engine schema store id object document := by
  intro ids request hrequest
  -- An empty object would make no changes.
  have hobject : object ≠ [] := by
    rintro rfl
    cases hchanges
    exact hne rfl
  obtain ⟨text, htext, hcheck⟩ := Request.checkId_of_id? hrequest.id?_eq .invalid
  -- The checks let the request through, the document is found by its identifier, and the update
  -- puts the same document back at its place.
  have hanswer : (answer (.inMemory engine) schema ids request).run store
      = (.withBody Status.ok document.normalize,
        store.withCollection schema.collection (store.collection schema.collection)) := by
    unfold answer
    rw [hrequest.method_eq]
    simp only
    rw [change_run, hrequest.checkWrite_eq hobject]
    simp only
    rw [hcheck]
    simp only [Json.object?]
    rw [hchanges]
    simp only
    rw [if_neg (by simpa using hne), htext]
    simp only
    rw [Store.update_of_settled hsettled hsame]
  refine ⟨congrArg Prod.fst hanswer, ?_⟩
  rw [Event.after, hanswer]
  exact intact_withCollection store schema.collection

end

/-! ### The insertion and the change -/

/-- Whether an insertion of an object left a document that the object cannot change. It is answered
with the document as it was prepared, which is settled under its identifier. If the object has a
field besides the identifier, then it `ChangesNothing` in any store in which the document is settled
still. -/
structure LeavesFixed (engine : StoreEngine) (schema : Schema) (ids : Nat → ObjectId)
    (post : Request) (store : Store) (object : Fields Json) (document : Document) (id : ObjectId) :
    Prop where
  id?_eq : document.id? = some id
  body_eq : (response engine schema ids post store).body
    = some (Envelope.toJson (.ofList [document.normalize]))
  settled : (((Event.request schema ids post).after engine store).collection
    schema.collection).Settled schema.collection id document
  changesNothing : (∃ name ∈ Fields.keys object, name ≠ Schema.idField) → ∀ later : Store,
    (later.collection schema.collection).Settled schema.collection id document →
      ChangesNothing engine schema later id object document

/-- **Sending an object again.** An object of which a schema makes a document makes changes too. The
document holds each change whose name is without dots, and if it holds all others then they leave it
as it is; unless the paths of some overlap, this is the only way. Then every insertion of the object
that is carried out leaves a document that the object cannot change. -/
theorem leavesFixed_of_newDocument {schema : Schema} {fresh : ObjectId} {object : Fields Json}
    {document : Document} (hprepared : schema.newDocument fresh object = .ok document) :
    ∃ changes, schema.changes object = .ok changes ∧
      (∀ change ∈ changes, '.' ∉ change.1.toList → document.Holds change) ∧
      (changes.Pairwise Document.ChangesApart →
        (document.applyChanges changes = document ↔ ∀ change ∈ changes, document.Holds change)) ∧
      ((∀ change ∈ changes, document.Holds change) →
        document.applyChanges changes = document ∧
        ∀ engine store (ids : Nat → ObjectId) (post : Request), ids 0 = fresh →
          post.method = "POST" → post.body = some (.obj object) →
          (response engine schema ids post store).status = Status.created →
            ∃ id, LeavesFixed engine schema ids post store object document id) := by
  obtain ⟨changes, hchanges, hvalues⟩ := Schema.exists_changes_of_newDocument hprepared
  refine ⟨changes, hchanges, ?_, Document.applyChanges_eq_self_iff, fun hholds => ?_⟩
  · -- The document has a value for each field of the object, as it was read to make the document.
    intro change hmem hname
    exact Document.holds_of_get? hname (hvalues change hmem)
  have hsame : document.applyChanges changes = document := Document.applyChanges_eq_self hholds
  refine ⟨hsame, ?_⟩
  rintro engine store ids post rfl hmethod hbody hstatus
  obtain ⟨id, hid, hresponse, hsettled⟩ := settled_of_created hprepared hmethod hbody hstatus
  refine ⟨id, hid, hresponse, hsettled, fun hfield later hlater => ?_⟩
  -- A field besides the identifier makes a change.
  have hne : changes ≠ [] := by
    obtain ⟨name, hname⟩ := hfield
    rintro rfl
    exact absurd ((Schema.mem_keys_changes hchanges).mpr hname) List.not_mem_nil
  exact changesNothing_of_settled hchanges hne hsame hlater

/-- An object with a number, and with the same number under the path that leads to it. -/
def countedObject : Fields Json :=
  [("stats", .obj [("views", .int 3)]), ("stats.views", .int 3)]

/-- The document that is made from it. -/
def countedDocument : Document :=
  [("_id", .objectId (.ofNat 0)), ("stats", .document [("views", .int64 3)]),
    ("stats.views", .int64 3), ("isActive", .bool true), ("tags", .array [])]

def countedInsertion : Request :=
  (Request.ofMethod "POST").withJsonContent.withBody (.obj countedObject)

def countedChange : Request :=
  ((Request.ofMethod "PATCH").withJsonContent.withBody (.obj countedObject)).withParam "id"
    (ObjectId.ofNat 0).toHex

/-- The object is sent once more, and is answered with the document. -/
theorem leavesFixed_of_newDocument_counted :
    (Schema.ofFields "posts" draftFields).newDocument (.ofNat 0) countedObject
        = .ok countedDocument ∧
      (response .withoutPatterns (.ofFields "posts" draftFields) ObjectId.ofNat countedInsertion
        .empty).status = Status.created ∧
      countedChange.ChangesBy (.ofNat 0) countedObject ∧
      response .withoutPatterns (.ofFields "posts" draftFields) ObjectId.ofNat countedChange
          ((Event.request (.ofFields "posts" draftFields) ObjectId.ofNat countedInsertion).after
            .withoutPatterns .empty)
        = .withBody Status.ok countedDocument.normalize := by
  -- All hypotheses are closed, and evaluated.
  have hprepared : (Schema.ofFields "posts" draftFields).newDocument (.ofNat 0) countedObject
      = .ok countedDocument := rfl
  have hstatus : (response .withoutPatterns (.ofFields "posts" draftFields) ObjectId.ofNat
      countedInsertion .empty).status = Status.created := by decide +kernel
  have hchange : countedChange.ChangesBy (.ofNat 0) countedObject :=
    ⟨rfl, by rfl, by decide +kernel, rfl⟩
  refine ⟨hprepared, hstatus, hchange, ?_⟩
  obtain ⟨changes, hchanges, -, -, hheld⟩ := leavesFixed_of_newDocument hprepared
  cases hchanges
  -- Both changes lead to the number, one of them through the document around it.
  have hholds : ∀ change ∈ [("stats", Bson.document [("views", .int64 3)]),
      ("stats.views", .int64 3)], countedDocument.Holds change := by
    simp only [List.forall_mem_cons]
    exact ⟨rfl, rfl, by simp⟩
  obtain ⟨id, hfixed⟩ := (hheld hholds).2 .withoutPatterns .empty ObjectId.ofNat countedInsertion
    rfl rfl rfl hstatus
  obtain rfl : ObjectId.ofNat 0 = id := Option.some.inj hfixed.id?_eq
  have hfield : ∃ name ∈ Fields.keys countedObject, name ≠ Schema.idField :=
    ⟨"stats", by decide, by decide⟩
  exact (hfixed.changesNothing hfield _ hfixed.settled _ _ hchange).1

end Service

end DocumentApi
