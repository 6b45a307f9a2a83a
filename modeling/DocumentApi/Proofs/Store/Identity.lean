import DocumentApi.Proofs.Document.Identifier
import DocumentApi.Proofs.Store.Uniqueness
import Mathlib.Data.List.Nodup

/-!
# Identifiers in a collection

The identifiers of the documents of a collection, place by place, are `Collection.ids`. A collection
is `Identified` if every document has an identifier and no two have the same one. Insertions keep it
so, and add identifiers at the end only (`Identified.insertAll`). A change keeps it so if it leaves
identifiers as they are, and then changes none (`ids_changed`).
-/

namespace DocumentApi

theorem Document.get?_of_id?_eq_some {document : Document} {id : ObjectId}
    (h : document.id? = some id) :
    Fields.get? document Schema.idField = some (.objectId id) := by
  unfold Document.id? at h
  obtain ⟨value, hvalue, hid⟩ := Option.bind_eq_some_iff.mp h
  -- Of all values only an identifier is read as one.
  cases value with
  | objectId other =>
    rw [Bson.objectId?, Option.some.injEq] at hid
    rw [hvalue, hid]
  | _ => cases hid

namespace Collection

variable {collection : Collection} {name : String}

/-- The identifiers of the documents, place by place. -/
def ids (collection : Collection) : List (Option ObjectId) :=
  collection.documents.map Document.id?

/-- Every document has an identifier, and no two have the same one. -/
structure Identified (collection : Collection) : Prop where
  isSome : ∀ id ∈ collection.ids, id.isSome
  nodup : collection.ids.Nodup

theorem identified_empty : Collection.empty.Identified :=
  ⟨fun _ hmem => absurd hmem List.not_mem_nil, List.nodup_nil⟩

/-- A collection with the same identifiers in the same places. -/
theorem Identified.of_ids_eq (h : collection.Identified) {after : Collection}
    (hids : after.ids = collection.ids) : after.Identified ∧ collection.ids <+: after.ids :=
  ⟨⟨hids ▸ h.isSome, hids ▸ h.nodup⟩, hids ▸ List.prefix_rfl⟩

/-! ### Insertions -/

theorem ids_insert {document : Document} {larger : Collection}
    (hinsert : collection.insert name document = .ok larger) :
    larger.ids = collection.ids ++ [document.id?] := by
  obtain ⟨-, -, rfl⟩ := insert_eq_ok hinsert
  unfold ids
  rw [List.map_append, List.map_singleton]

/-- Identifiers are values like others to the check for duplicates: the same one is a clash. -/
theorem clash_idField_of_id?_eq {a b : Document} {id : ObjectId} (ha : a.id? = some id)
    (hb : b.id? = some id) : Clash Schema.idField a b := by
  -- Both hold the identifier under the field, and an identifier is the same as itself.
  refine ⟨.objectId id, .objectId id, ?_, ?_, by simp [Bson.same]⟩
  · rw [indexed?, Document.get?_of_id?_eq_some ha]
  · rw [indexed?, Document.get?_of_id?_eq_some hb]

/-- A document that is inserted has an identifier of its own. -/
theorem id?_notMem_ids {document : Document} {larger : Collection}
    (hinsert : collection.insert name document = .ok larger) : document.id? ∉ collection.ids := by
  obtain ⟨hsome, hcheck, -⟩ := insert_eq_ok hinsert
  obtain ⟨id, hid⟩ := Option.isSome_iff_exists.mp hsome
  -- If its identifier were there, the check would have found the two in conflict.
  intro hmem
  obtain ⟨other, hother, hsame⟩ := List.mem_map.mp hmem
  rw [hid] at hsame
  exact not_clash_of_checkUnique hcheck List.mem_cons_self hother
    (clash_idField_of_id?_eq hsame hid)

/-- **Insertions** keep a collection identified and its identifiers in their places. -/
theorem Identified.insertAll (h : collection.Identified) (documents : List Document) :
    (collection.insertAll name documents).2.Identified ∧
      collection.ids <+: (collection.insertAll name documents).2.ids := by
  -- What is kept is said with the start, so that it can be carried along.
  refine insertAll_induction
    (motive := fun after => after.Identified ∧ collection.ids <+: after.ids)
    ⟨h, List.prefix_rfl⟩ ?_
  rintro before after document - hinsert ⟨hbefore, hprefix⟩
  have hids := ids_insert hinsert
  obtain ⟨hsome, -, -⟩ := insert_eq_ok hinsert
  refine ⟨⟨?_, ?_⟩, ?_⟩
  · -- Every place has an identifier: an old one, or that of the new document.
    intro id hid
    rw [hids, List.mem_append, List.mem_singleton] at hid
    exact hid.elim (hbefore.isSome id) fun heq => heq ▸ hsome
  · -- The new identifier is none of the old ones.
    rw [hids]
    exact hbefore.nodup.append (List.nodup_singleton _)
      (List.disjoint_singleton.mpr (id?_notMem_ids hinsert))
  · -- The old ones have stayed at the beginning.
    rw [hids]
    exact hprefix.trans (List.prefix_append _ _)

/-- If all of some documents are inserted, then their identifiers are there. -/
theorem ids_insertAll_of_ok {documents : List Document} {after : Collection}
    (h : collection.insertAll name documents = (.ok (), after)) :
    after.ids = collection.ids ++ documents.map Document.id? ∧
      ∀ document ∈ documents, document.id?.isSome := by
  -- The induction is on the list: the identifiers of the first document come before the others.
  induction documents generalizing collection with
  | nil =>
    cases h
    exact ⟨(List.append_nil _).symm, fun _ hmem => absurd hmem List.not_mem_nil⟩
  | cons document rest ih =>
    obtain ⟨larger, hinsert, h⟩ := insertAll_cons_eq_ok h
    obtain ⟨hids, hrest⟩ := ih h
    refine ⟨?_, List.forall_mem_cons.mpr ⟨(insert_eq_ok hinsert).1, hrest⟩⟩
    rw [hids, ids_insert hinsert, List.append_assoc, List.singleton_append, List.map_cons]

/-! ### Changes -/

/-- **Changes** that leave the identifiers of documents as they are change none. -/
theorem ids_changed {id : ObjectId} {changes : Fields Bson}
    (h : ∀ document : Document, (document.applyChanges changes).id? = document.id?) :
    (collection.changed name id changes).ids = collection.ids := by
  -- A change that is carried out replaces one document at its place.
  rcases collection.changed_cases name id changes with ⟨before, after, hupdate⟩ | ⟨hsame, -⟩
  · obtain ⟨place, -, hbefore, rfl, -, hresult⟩ := update_eq_ok hupdate
    rw [hresult]
    unfold ids
    obtain ⟨hlt, rfl⟩ := List.getElem?_eq_some_iff.mp hbefore
    -- The identifier that is put into the place is the one that is there.
    rw [List.map_set, h, ← List.getElem_map Document.id?, List.set_getElem_self]
    rw [List.length_map]
    exact hlt
  · -- Any other change leaves the collection.
    rw [hsame]

/-! ### Finding documents -/

/-- The first document with an identifier. -/
def find? (collection : Collection) (id : ObjectId) : Option Document :=
  collection.documents.find? fun document => document.id? == some id

theorem position?_bind (collection : Collection) (id : ObjectId) :
    (collection.position? id).bind (collection.documents[·]?) = collection.find? id :=
  List.find?_eq_bind_findIdx?_getElem?.symm

theorem find?_eq_none_iff {id : ObjectId} :
    collection.find? id = none ↔ some id ∉ collection.ids := by
  unfold find? ids
  rw [List.find?_eq_none, List.mem_map]
  simp only [beq_iff_eq, not_exists, not_and]

end Collection

namespace Store

variable {store : Store}

theorem identified_insertAll (h : ∀ name, (store.collection name).Identified)
    (documents : List Document) (other name : String) :
    ((store.insertAll documents other).2.collection name).Identified ∧
      (store.collection name).ids
        <+: ((store.insertAll documents other).2.collection name).ids := by
  -- Only the collection that is written can have changed.
  rw [collection_insertAll]
  split
  · next heq =>
    subst heq
    exact (h other).insertAll documents
  · exact ⟨h name, List.prefix_rfl⟩

theorem ids_update (store : Store) {changes : Fields Bson}
    (h : ∀ document : Document, (document.applyChanges changes).id? = document.id?)
    (id : ObjectId) (returning : Returning) (other name : String) :
    ((store.update id changes returning other).2.collection name).ids
      = (store.collection name).ids := by
  -- In another collection nothing is written.
  rw [collection_update]
  split
  · next heq =>
    subst heq
    exact Collection.ids_changed h
  · rfl

/-- If all of some documents are inserted, then their identifiers are there. -/
theorem mem_ids_of_insertAll {documents : List Document} {name : String} {after : Store}
    (h : store.insertAll documents name = (.ok (), after)) :
    ∀ document ∈ documents, document.id?.isSome ∧ document.id? ∈ (after.collection name).ids := by
  -- The identifiers are appended, and so are among those of the collection.
  obtain ⟨hids, hsome⟩ := Collection.ids_insertAll_of_ok (collection_of_insertAll_eq_ok h)
  intro document hmem
  refine ⟨hsome document hmem, ?_⟩
  rw [hids]
  exact List.mem_append_right _ (List.mem_map_of_mem hmem)

/-- A change that is carried out leaves the changed document in the store. -/
theorem mem_ids_of_update {changes : Fields Bson} {id : ObjectId} {name : String}
    {document : Document} {after : Store}
    (h : store.update id changes .after name = (.ok (some document), after)) :
    ∃ before : Document, document = before.applyChanges changes ∧
      document.id? ∈ (after.collection name).ids := by
  -- The answer says that the change was carried out, and what it has made.
  have hanswer : (store.update id changes .after name).1 = .ok (some document) := by rw [h]
  obtain ⟨before, changed, result, hupdate, rfl⟩ := (update_fst_eq_ok store name).mp hanswer
  have hcollection := collection_update store name name id changes .after
  rw [h, if_pos rfl, Collection.changed, hupdate] at hcollection
  obtain ⟨place, -, hbefore, rfl, -, rfl⟩ := Collection.update_eq_ok hupdate
  refine ⟨before, rfl, ?_⟩
  -- The changed document stands at the place of the one before it.
  simp only at hcollection
  rw [hcollection]
  exact List.mem_map_of_mem (List.mem_set (List.getElem?_eq_some_iff.mp hbefore).1 _)

/-- **Fetching** finds the first document with the identifier and cuts it down. -/
theorem fetch_eq (store : Store) (id : ObjectId) (projection : Projection) (name : String) :
    store.fetch id projection name
      = ((store.collection name).find? id).map (Document.cut projection) := by
  unfold fetch
  simp only
  rw [← Collection.position?_bind, Option.map_bind]
  rfl

/-- A document is found by its identifier. -/
theorem exists_fetch {name : String} {id : ObjectId} (h : some id ∈ (store.collection name).ids)
    (projection : Projection) : ∃ document, store.fetch id projection name = some document := by
  -- Nothing would be found only if the identifier were nowhere.
  have hfound : (store.collection name).find? id ≠ none :=
    fun hnone => Collection.find?_eq_none_iff.mp hnone h
  obtain ⟨document, hdocument⟩ := Option.ne_none_iff_exists'.mp hfound
  exact ⟨document.cut projection, by rw [fetch_eq, hdocument, Option.map_some]⟩

end Store

end DocumentApi
