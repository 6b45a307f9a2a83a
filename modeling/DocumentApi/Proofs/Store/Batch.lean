import DocumentApi.Proofs.Store.Writes

/-!
# Inserting several documents

A list of documents is inserted one after another, and given up at the first that is refused. What
the list leaves behind is said by two facts:

* `Collection.insertAll_cases` — documents with identifiers are all appended in their order, or
  those before the first that the check of unique fields refuses;
* `Collection.FirstRefused` — which one this is: every document before it passes the check in the
  collection with those before itself, and it fails in the collection with all of those.

Only the check can refuse a document, since the failure for a document without an identifier needs
one (`Collection.insert_of_isSome`), and what the check reports is a duplicate
(`Collection.exists_duplicateKey`).
-/

namespace DocumentApi

namespace Collection

variable {collection : Collection} {name : String}

/-- The collection with further documents at the end. -/
def append (collection : Collection) (documents : List Document) : Collection :=
  { collection with documents := collection.documents ++ documents }

@[simp] theorem append_nil : collection.append [] = collection := by
  unfold append
  rw [List.append_nil]

theorem append_append (documents others : List Document) :
    (collection.append documents).append others = collection.append (documents ++ others) := by
  unfold append
  rw [List.append_assoc]

/-- The check of a document against all documents of a collection. -/
def checkNew (collection : Collection) (name : String) (document : Document) :
    Except StoreError Unit :=
  collection.checkUnique name collection.documents document

/-- Whether the document at a place of a list is the first of them that is refused when they are
inserted one after another, and with which failure. -/
def FirstRefused (collection : Collection) (name : String) (documents : List Document)
    (place : Nat) (failure : StoreError) : Prop :=
  (∀ earlier, earlier < place → ∃ document, documents[earlier]? = some document ∧
    (collection.append (documents.take earlier)).checkNew name document = .ok ()) ∧
  ∃ document, documents[place]? = some document ∧
    (collection.append (documents.take place)).checkNew name document = .error failure

/-- The check reports duplicates. -/
theorem exists_duplicateKey {document : Document} {failure : StoreError}
    (h : collection.checkNew name document = .error failure) :
    ∃ detail, failure = .duplicateKey name detail := by
  -- A failure of the check names the field that has been found taken.
  unfold checkNew checkUnique at h
  split at h
  · cases h
    exact ⟨_, rfl⟩
  · cases h

/-- A document with an identifier is appended if the check lets it through. -/
theorem insert_of_isSome {document : Document} (hid : document.id?.isSome) :
    collection.insert name document
      = (collection.checkNew name document).map fun _ => collection.append [document] := by
  unfold insert checkNew append
  rw [Option.isSome_iff_ne_none] at hid
  -- Without an identifier nothing is inserted, so there has to be one.
  cases hdocument : document.id? with
  | none => exact absurd hdocument hid
  | some id =>
    cases collection.checkUnique name collection.documents document <;> rfl

/-- The first refused document of a list is the next one of the longer list. -/
theorem FirstRefused.cons {document : Document} {documents : List Document} {place : Nat}
    {failure : StoreError} (hcheck : collection.checkNew name document = .ok ())
    (h : (collection.append [document]).FirstRefused name documents place failure) :
    collection.FirstRefused name (document :: documents) (place + 1) failure := by
  obtain ⟨hearlier, refused, hrefused, hfailure⟩ := h
  refine ⟨?_, refused, hrefused, ?_⟩
  · -- The first document passes, and those behind it did so in the larger collection.
    rintro (_ | earlier) hlt
    · exact ⟨document, rfl, by rw [List.take_zero, append_nil, hcheck]⟩
    · obtain ⟨found, hfound, hok⟩ := hearlier earlier (Nat.lt_of_succ_lt_succ hlt)
      refine ⟨found, hfound, ?_⟩
      rw [append_append] at hok
      exact hok
  · -- The refused document meets the same documents in both collections.
    rw [append_append] at hfailure
    exact hfailure

/-- **Inserting a list** of documents with identifiers. -/
theorem insertAll_cases (collection : Collection) (name : String) {documents : List Document}
    (hids : ∀ document ∈ documents, document.id?.isSome) :
    collection.insertAll name documents = (.ok (), collection.append documents) ∨
      ∃ place failure, collection.FirstRefused name documents place failure ∧
        collection.insertAll name documents
          = (.error failure, collection.append (documents.take place)) := by
  -- The induction is on the list, the collection growing with each document.
  induction documents generalizing collection with
  | nil => exact Or.inl (by rw [append_nil, insertAll])
  | cons document rest ih =>
    rw [List.forall_mem_cons] at hids
    rw [insertAll, insert_of_isSome hids.1]
    -- The check alone decides, since the document has an identifier.
    cases hcheck : collection.checkNew name document with
    | error failure =>
      refine Or.inr ⟨0, failure, ⟨?_, document, rfl, ?_⟩, ?_⟩
      · exact fun earlier hlt => absurd hlt (Nat.not_lt_zero _)
      · rw [List.take_zero, append_nil, hcheck]
      · rw [List.take_zero, append_nil]
        rfl
    | ok _ =>
      -- The rest is inserted into the collection with the first document.
      simp only [Except.map]
      rcases ih (collection.append [document]) hids.2 with
        hall | ⟨place, failure, hrefused, hsome⟩
      · -- The rest is appended too.
        exact Or.inl (by rw [hall, append_append, List.singleton_append])
      · -- The rest is given up at a place that is one further on in the whole list.
        refine Or.inr ⟨place + 1, failure, hrefused.cons hcheck, ?_⟩
        rw [hsome, append_append, List.singleton_append, List.take_succ_cons]

end Collection

namespace Store

/-- **Inserting a list** into a collection of a store. -/
theorem insertAll_cases {store : Store} {documents : List Document} {name : String}
    {outcome : Except StoreError Unit} {after : Store}
    (hids : ∀ document ∈ documents, document.id?.isSome)
    (h : store.insertAll documents name = (outcome, after)) :
    (∀ other, other ≠ name → after.collection other = store.collection other) ∧
      ((outcome = .ok () ∧
          after.collection name = (store.collection name).append documents) ∨
        ∃ place failure, (store.collection name).FirstRefused name documents place failure ∧
          outcome = .error failure ∧
          after.collection name = (store.collection name).append (documents.take place)) := by
  unfold Store.insertAll at h
  rw [Prod.mk.injEq] at h
  obtain ⟨rfl, rfl⟩ := h
  refine ⟨?_, ?_⟩
  · -- Another collection is never written.
    intro other hother
    rw [collection_withCollection, if_neg (Ne.symm hother)]
  · -- The collection itself is that of the insertion, complete or not.
    rw [collection_withCollection, if_pos rfl]
    rcases (store.collection name).insertAll_cases name hids with
      hall | ⟨place, failure, hrefused, hsome⟩
    · rw [hall]
      exact Or.inl ⟨rfl, rfl⟩
    · rw [hsome]
      exact Or.inr ⟨place, failure, hrefused, rfl, rfl⟩

end Store

end DocumentApi
