import DocumentApi.Proofs.Store.Identity

/-!
# Reading what was inserted

Fetching by an identifier finds the first document that has it. What is found stays what is found
when documents are inserted behind it, and an inserted document is found because no document before
it has its identifier:

* `Collection.find?_of_insertAll` — of the documents that are inserted, each is the one that is
  found under its identifier, and before the insertion none was;
* `Store.fetch_of_insertAll` — fetching an inserted document gives it back, cut down.
-/

namespace DocumentApi

namespace Collection

variable {collection : Collection} {name : String} {id : ObjectId}

/-- A document that is found is found after an insertion too. -/
theorem find?_insert {document found : Document} {larger : Collection}
    (hinsert : collection.insert name document = .ok larger)
    (hfound : collection.find? id = some found) : larger.find? id = some found := by
  -- The document is appended, so that what was found first is found first still.
  obtain ⟨-, -, rfl⟩ := insert_eq_ok hinsert
  unfold find? at hfound ⊢
  rw [List.find?_append, hfound, Option.some_or]

/-- An inserted document is found, and no document was found before. -/
theorem find?_insert_self {document : Document} {larger : Collection}
    (hinsert : collection.insert name document = .ok larger) (hid : document.id? = some id) :
    collection.find? id = none ∧ larger.find? id = some document := by
  -- Had one been found before, the insertion would have been refused.
  have hnone : collection.find? id = none :=
    find?_eq_none_iff.mpr (hid ▸ id?_notMem_ids hinsert)
  refine ⟨hnone, ?_⟩
  -- So the search goes through to the end, where the new document is.
  obtain ⟨-, -, rfl⟩ := insert_eq_ok hinsert
  unfold find? at hnone ⊢
  rw [List.find?_append, hnone, Option.none_or, List.find?_singleton, hid, beq_self_eq_true,
    if_pos rfl]

theorem find?_insertAll {found : Document} (documents : List Document)
    (hfound : collection.find? id = some found) :
    (collection.insertAll name documents).2.find? id = some found :=
  insertAll_induction (motive := fun after => after.find? id = some found) hfound
    fun _ _ _ _ hinsert hbefore => find?_insert hinsert hbefore

/-- **Inserted documents are found.** If all of some documents are inserted, then each of them is
found under its identifier, and under none of these was a document before. -/
theorem find?_of_insertAll {documents : List Document} {after : Collection}
    (h : collection.insertAll name documents = (.ok (), after)) {document : Document}
    (hmem : document ∈ documents) (hid : document.id? = some id) :
    collection.find? id = none ∧ after.find? id = some document := by
  -- The list is inserted from its first document on, into a growing collection.
  induction documents generalizing collection with
  | nil => cases hmem
  | cons first rest ih =>
    obtain ⟨larger, hinsert, hrest⟩ := insertAll_cons_eq_ok h
    rcases List.mem_cons.mp hmem with rfl | hbehind
    · -- The first document is found, also behind the rest of them.
      obtain ⟨hnone, hfound⟩ := find?_insert_self hinsert hid
      have hkept : (larger.insertAll name rest).2.find? id = some document :=
        find?_insertAll rest hfound
      rw [hrest] at hkept
      exact ⟨hnone, hkept⟩
    · -- What is not found in the larger collection is not found in the smaller one.
      obtain ⟨hnone, hfound⟩ := ih hrest hbehind
      refine ⟨Option.eq_none_iff_forall_ne_some.mpr fun other hother => ?_, hfound⟩
      rw [find?_insert hinsert hother] at hnone
      cases hnone

end Collection

namespace Store

variable {store after : Store} {name : String}

/-- **Reading what was inserted.** Each inserted document is fetched by its identifier, under which
nothing was fetched before. -/
theorem fetch_of_insertAll {documents : List Document}
    (h : store.insertAll documents name = (.ok (), after)) {document : Document}
    (hmem : document ∈ documents) {id : ObjectId} (hid : document.id? = some id)
    (projection : Projection) :
    store.fetch id projection name = none ∧
      after.fetch id projection name = some (document.cut projection) := by
  -- The collection of the store is the one that the documents have been inserted into.
  obtain ⟨hnone, hfound⟩ :=
    Collection.find?_of_insertAll (collection_of_insertAll_eq_ok h) hmem hid
  rw [fetch_eq, fetch_eq, hnone, hfound, Option.map_none, Option.map_some]
  exact ⟨rfl, rfl⟩

end Store

end DocumentApi
