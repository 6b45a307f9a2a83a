import DocumentApi.Proofs.Store.Exclusion
import DocumentApi.Proofs.Store.Identity

/-!
# Places of documents

A document is changed at its place, which is the first with its identifier. In collections where no
identifier stands at two places (`Collection.DistinctIds`) it is the only one, and `Collection.IsAt`
says so.

* `Collection.DistinctIds.insertAll`, `Collection.DistinctIds.changed` — identifiers stay distinct,
  whatever is inserted and changed, because the index of identifiers rules out that two documents
  have the same one. A change may lead into an identifier, which leaves the document without one, or
  name another one, which has to pass the check for duplicates;
* `Collection.settled_of_insert`, `Collection.settled_of_update` — a document that was just written
  stands at the place of its identifier and clashes with no other (`Collection.Settled`);
* `Collection.Settled.update_eq`, `Store.update_of_settled` — a change that makes no difference to
  such a document is carried out and leaves the collection as it is;
* `Store.update_eq_ok` — a change that is carried out sets the document at the place of the
  identifier, and `Collection.IsAt.set_eq_map` says the same without a place.
-/

namespace DocumentApi

/-- Whether two documents have the same identifier. -/
def Document.SameId (a b : Document) : Prop :=
  ∃ id, a.id? = some id ∧ b.id? = some id

namespace Collection

variable {collection : Collection} {name : String}

/-- Whether no identifier stands at two places. -/
def DistinctIds (collection : Collection) : Prop :=
  ∀ (id : ObjectId) (place other : Nat), collection.ids[place]? = some (some id) →
    collection.ids[other]? = some (some id) → place = other

theorem distinctIds_empty : Collection.empty.DistinctIds :=
  fun _ _ _ hplace => absurd hplace (by simp [ids, empty])

/-- The identifier of a document is at its place. -/
theorem getElem?_ids {place : Nat} {document : Document} {id : ObjectId}
    (hdocument : collection.documents[place]? = some document) (hid : document.id? = some id) :
    collection.ids[place]? = some (some id) := by
  unfold ids
  rw [List.getElem?_map, hdocument, Option.map_some, hid]

/-! ### Identifiers stay distinct -/

/-- Two documents with the same identifier share a value, so that the index of identifiers rules
them out. -/
theorem ruledOut_sameId : RuledOut Schema.idField Document.SameId :=
  ⟨fun ⟨id, ha, hb⟩ => ⟨id, hb, ha⟩, fun ⟨_, ha, hb⟩ => clash_idField_of_id?_eq ha hb⟩

/-- Identifiers are distinct if no two documents have the same one. -/
theorem distinctIds_iff_excludes :
    collection.DistinctIds ↔ collection.Excludes Document.SameId := by
  constructor
  · -- Two documents with one identifier would stand at two places, the second behind the first.
    intro h
    refine List.pairwise_iff_getElem.mpr fun i j hi hj hij => ?_
    rintro ⟨id, hid, hid'⟩
    have hsame : i = j := h id i j (getElem?_ids (List.getElem?_eq_getElem hi) hid)
      (getElem?_ids (List.getElem?_eq_getElem hj) hid')
    exact absurd hsame (Nat.ne_of_lt hij)
  · -- Two places with one identifier would hold two documents that are related.
    intro h id place other hplace hother
    unfold ids at hplace hother
    rw [List.getElem?_map] at hplace hother
    obtain ⟨a, ha, hid⟩ := Option.map_eq_some_iff.mp hplace
    obtain ⟨b, hb, hid'⟩ := Option.map_eq_some_iff.mp hother
    by_contra hne
    exact ruledOut_sameId.not_related h hne ha hb ⟨id, hid, hid'⟩

theorem DistinctIds.addUnique (h : collection.DistinctIds) (field : String) :
    (collection.addUnique field).DistinctIds :=
  distinctIds_iff_excludes.mpr ((distinctIds_iff_excludes.mp h).addUnique field)

/-- **Insertions** keep identifiers distinct. -/
theorem DistinctIds.insertAll (h : collection.DistinctIds) (documents : List Document) :
    (collection.insertAll name documents).2.DistinctIds :=
  distinctIds_iff_excludes.mpr
    (ruledOut_sameId.insertAll List.mem_cons_self documents (distinctIds_iff_excludes.mp h))

/-- **Changes** keep identifiers distinct. -/
theorem DistinctIds.changed (h : collection.DistinctIds) (id : ObjectId) (changes : Fields Bson) :
    (collection.changed name id changes).DistinctIds :=
  distinctIds_iff_excludes.mpr
    (ruledOut_sameId.changed List.mem_cons_self id changes (distinctIds_iff_excludes.mp h))

/-- However the documents are ordered, an identifier stands at one place. -/
theorem DistinctIds.eq_of_perm (h : collection.DistinctIds) {order : List Document}
    (hperm : order.Perm collection.documents) {place other : Nat} {document found : Document}
    {id : ObjectId} (hplace : order[place]? = some document) (hid : document.id? = some id)
    (hother : order[other]? = some found) (hfound : found.id? = some id) : other = place := by
  -- Otherwise two places would hold documents with the same identifier.
  by_contra hne
  exact ruledOut_sameId.not_related_of_perm (distinctIds_iff_excludes.mp h) hperm hne hother hplace
    ⟨id, hfound, hid⟩

/-! ### Changes -/

/-- Whether a document stands at the place of an identifier and passes the check for duplicates
against the documents at all other places. -/
def Settled (collection : Collection) (name : String) (id : ObjectId) (document : Document) : Prop :=
  ∃ place, collection.position? id = some place ∧ collection.documents[place]? = some document ∧
    collection.checkUnique name (collection.documents.eraseIdx place) document = .ok ()

/-- What is inserted is settled. -/
theorem settled_of_insert {document : Document} {id : ObjectId} {larger : Collection}
    (hinsert : collection.insert name document = .ok larger) (hid : document.id? = some id) :
    larger.Settled name id document := by
  have hnew := id?_notMem_ids hinsert
  obtain ⟨-, hcheck, rfl⟩ := insert_eq_ok hinsert
  -- It stands behind all others.
  refine ⟨collection.documents.length, ?_, by simp, ?_⟩
  · -- No document before it has the identifier.
    refine List.findIdx?_eq_some_iff_getElem.mpr ⟨by simp, by simp [hid], fun earlier hlt => ?_⟩
    rw [List.getElem_append_left hlt, beq_iff_eq]
    intro hearlier
    refine hnew (hid ▸ hearlier ▸ ?_)
    exact List.mem_map_of_mem (List.getElem_mem hlt)
  · -- The others are those that it was compared with when it was inserted.
    rw [List.eraseIdx_append_of_length_le (Nat.le_refl _), Nat.sub_self, List.eraseIdx_cons_zero,
      List.append_nil]
    exact hcheck

/-- What is changed is settled, if it is found by the same identifier still. -/
theorem settled_of_update {id : ObjectId} {changes : Fields Bson} {before after : Document}
    {result : Collection}
    (h : collection.update name id changes = .ok (some (before, after, result)))
    (hid : after.id? = some id) : result.Settled name id after := by
  obtain ⟨place, hplace, -, -, hcheck, rfl⟩ := update_eq_ok h
  obtain ⟨hlt, -, hearlier⟩ := List.findIdx?_eq_some_iff_getElem.mp hplace
  refine ⟨place, ?_, List.getElem?_set_self hlt, ?_⟩
  · -- The place is the first with the identifier still: those before it are as they were.
    refine List.findIdx?_eq_some_iff_getElem.mpr ⟨by simpa using hlt, by simp [hid], ?_⟩
    intro earlier hlt'
    rw [List.getElem_set_ne (Nat.ne_of_gt hlt')]
    exact hearlier earlier hlt'
  · -- And so are those that it is compared with.
    rw [List.eraseIdx_set_eq]
    exact hcheck

/-- **A change that makes no difference** in a settled document is carried out and leaves the
collection as it is. -/
theorem Settled.update_eq {id : ObjectId} {document : Document}
    (h : collection.Settled name id document) {changes : Fields Bson}
    (hsame : document.applyChanges changes = document) :
    collection.update name id changes = .ok (some (document, document, collection)) := by
  obtain ⟨place, hplace, hdocument, hcheck⟩ := h
  -- Setting the document that is there changes nothing.
  have hset : collection.documents.set place document = collection.documents := by
    obtain ⟨hlt, rfl⟩ := List.getElem?_eq_some_iff.mp hdocument
    exact List.set_getElem_self hlt
  -- So the update passes the check as the document did, and puts it back.
  unfold update
  rw [hplace]
  simp only
  rw [hdocument]
  simp only
  rw [hsame, hcheck, hset]
  rfl

/-! ### The document with an identifier -/

/-- Whether the document at a place is the one with an identifier, and the only one. -/
structure IsAt (collection : Collection) (id : ObjectId) (place : Nat) (document : Document) :
    Prop where
  at_place : collection.documents[place]? = some document
  id?_eq : document.id? = some id
  only : ∀ other document, collection.documents[other]? = some document →
    document.id? = some id → other = place

theorem id?_of_position? {id : ObjectId} {place : Nat} {document : Document}
    (hplace : collection.position? id = some place)
    (hdocument : collection.documents[place]? = some document) : document.id? = some id := by
  -- The search has ended at a document with the identifier.
  obtain ⟨hlt, hid, -⟩ := List.findIdx?_eq_some_iff_getElem.mp hplace
  rw [List.getElem?_eq_getElem hlt, Option.some.injEq] at hdocument
  rw [hdocument, beq_iff_eq] at hid
  exact hid

/-- The document at the place of an identifier. -/
theorem DistinctIds.isAt (h : collection.DistinctIds) {id : ObjectId} {place : Nat}
    {document : Document} (hplace : collection.position? id = some place)
    (hdocument : collection.documents[place]? = some document) :
    collection.IsAt id place document := by
  -- What the search has found has the identifier, and no other document has it.
  have hid := id?_of_position? hplace hdocument
  exact ⟨hdocument, hid, fun other found hfound hfoundId =>
    h id other place (getElem?_ids hfound hfoundId) (getElem?_ids hdocument hid)⟩

/-- Setting the only document with an identifier is changing all documents that have it. -/
theorem IsAt.set_eq_map {id : ObjectId} {place : Nat} {document : Document}
    (h : collection.IsAt id place document) (change : Document → Document) :
    collection.documents.set place (change document)
      = collection.documents.map fun document =>
          if document.id? = some id then change document else document := by
  refine List.ext_getElem? fun other => ?_
  rw [List.getElem?_map, List.getElem?_set]
  -- The place itself gets the changed document; at another place the identifier is another one.
  split
  · next heq =>
    subst heq
    obtain ⟨hlt, -⟩ := List.getElem?_eq_some_iff.mp h.at_place
    rw [if_pos hlt, h.at_place, Option.map_some, if_pos h.id?_eq]
  · next hne =>
    cases hother : collection.documents[other]? with
    | none => rfl
    | some found =>
      have hid : found.id? ≠ some id := fun hid => hne (h.only other found hother hid).symm
      rw [Option.map_some, if_neg hid]

end Collection

namespace Store

variable {store : Store}

/-- **A change that is carried out** in a collection of a store. -/
theorem update_eq_ok {id : ObjectId} {changes : Fields Bson} {returning : Returning}
    {name : String} {answer : Document} {after : Store}
    (h : store.update id changes returning name = (.ok (some answer), after)) :
    ∃ place document, (store.collection name).position? id = some place ∧
      (store.collection name).documents[place]? = some document ∧
      (returning = .before → answer = document) ∧
      (returning = .after → answer = document.applyChanges changes) ∧
      after.collection name = { store.collection name with
        documents := (store.collection name).documents.set place
          (document.applyChanges changes) } ∧
      ∀ other, other ≠ name → after.collection other = store.collection other := by
  -- The answer says that the change was carried out.
  have hanswer : (store.update id changes returning name).1 = .ok (some answer) := by rw [h]
  obtain ⟨before, changed, result, hupdate, rfl⟩ := (update_fst_eq_ok store name).mp hanswer
  -- Only the collection of this name has changed.
  have hcollection : ∀ other, after.collection other
      = if name = other then result else store.collection other := by
    intro other
    have hother := collection_update store name other id changes returning
    rw [h, Collection.changed, hupdate] at hother
    exact hother
  obtain ⟨place, hplace, hbefore, rfl, -, rfl⟩ := Collection.update_eq_ok hupdate
  -- The answer is the document before or after the change, as was asked for.
  refine ⟨place, before, hplace, hbefore, ?_, ?_, ?_, ?_⟩
  · rintro rfl
    rfl
  · rintro rfl
    rfl
  · rw [hcollection, if_pos rfl]
  · intro other hother
    rw [hcollection, if_neg (Ne.symm hother)]

/-- A change that makes no difference in a settled document, in a collection of a store. -/
theorem update_of_settled {name : String} {id : ObjectId} {document : Document}
    (h : (store.collection name).Settled name id document) {changes : Fields Bson}
    (hsame : document.applyChanges changes = document) (returning : Returning) :
    store.update id changes returning name
      = (.ok (some document), store.withCollection name (store.collection name)) := by
  unfold Store.update
  -- The document is the same before and after, so it is the answer either way.
  rw [h.update_eq hsame]
  cases returning <;> rfl

/-- **A change that is made again** in a store. -/
theorem update_again {id : ObjectId} {changes : Fields Bson} {returning : Returning}
    {name : String} {answer : Document} {after : Store}
    (h : store.update id changes returning name = (.ok (some answer), after))
    (hsame : ∀ document : Document,
      (document.applyChanges changes).applyChanges changes = document.applyChanges changes)
    (hids : ∀ document : Document, (document.applyChanges changes).id? = document.id?) :
    ∃ current : Document, current.id? = some id ∧
      after.update id changes .before name
        = (.ok (some current), after.withCollection name (after.collection name)) := by
  -- The first change was carried out, and its result is in the collection now.
  have hanswer : (store.update id changes returning name).1 = .ok (some answer) := by rw [h]
  obtain ⟨before, changed, result, hupdate, -⟩ := (update_fst_eq_ok store name).mp hanswer
  have hcollection := collection_update store name name id changes returning
  rw [h, if_pos rfl, Collection.changed, hupdate] at hcollection
  simp only at hcollection
  obtain ⟨place, hplace, hbefore, rfl, -, -⟩ := Collection.update_eq_ok hupdate
  -- It is found by the same identifier, so the second change comes to the same document.
  have hid : (before.applyChanges changes).id? = some id :=
    (hids before).trans (Collection.id?_of_position? hplace hbefore)
  -- There it makes no difference, because it was made before.
  refine ⟨before.applyChanges changes, hid, update_of_settled ?_ (hsame before) .before⟩
  rw [hcollection]
  exact Collection.settled_of_update hupdate hid

end Store

end DocumentApi
