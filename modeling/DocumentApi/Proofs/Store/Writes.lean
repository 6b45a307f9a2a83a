import DocumentApi.Store

/-!
# What writes do to a collection

The operations of a store that change something, taken apart:

* `Collection.insert_eq_ok`, `Collection.update_eq_ok` — all that is known of an insertion and of a
  change that were carried out;
* `Collection.insertAll_induction` — what every single insertion keeps is kept by all of them, also
  when the list is given up in the middle;
* `Store.collection_insertAll`, `Store.collection_update`, `Store.collection_createIndex` and
  `Store.collection_drop` — the collections after an operation, only one of which is another one.
-/

namespace DocumentApi

namespace Collection

variable {collection : Collection} {name : String}

theorem checkUnique_eq_ok {others : List Document} {candidate : Document} :
    collection.checkUnique name others candidate = .ok () ↔
      clash? others candidate collection.indexedFields = none := by
  unfold checkUnique
  split
  · next h => simp [h]
  · next h => simp [h]

/-- **An insertion that is carried out.** -/
theorem insert_eq_ok {document : Document} {larger : Collection}
    (h : collection.insert name document = .ok larger) :
    document.id?.isSome ∧ collection.checkUnique name collection.documents document = .ok () ∧
      larger = { collection with documents := collection.documents ++ [document] } := by
  unfold insert at h
  -- An identifier and the check are all that an insertion asks for.
  cases hid : document.id? with
  | none =>
    rw [hid] at h
    cases h
  | some id =>
    rw [hid] at h
    cases hcheck : collection.checkUnique name collection.documents document with
    | error failure =>
      rw [hcheck] at h
      cases h
    | ok _ =>
      rw [hcheck] at h
      cases h
      exact ⟨rfl, rfl, rfl⟩

/-- If all of some documents are inserted, then the first of them is, and all others behind it. -/
theorem insertAll_cons_eq_ok {document : Document} {rest : List Document} {after : Collection}
    (h : collection.insertAll name (document :: rest) = (.ok (), after)) :
    ∃ larger, collection.insert name document = .ok larger ∧
      larger.insertAll name rest = (.ok (), after) := by
  rw [insertAll] at h
  -- Had the first document been refused, the list would have been given up.
  cases hinsert : collection.insert name document with
  | error failure =>
    rw [hinsert] at h
    cases h
  | ok larger =>
    rw [hinsert] at h
    exact ⟨larger, rfl, h⟩

/-- **Inserting one after another.** What holds of a collection, and is kept by the insertion of
each of some documents, holds after all that are inserted. -/
theorem insertAll_induction {motive : Collection → Prop} {documents : List Document}
    (hstart : motive collection)
    (hstep : ∀ (before after : Collection) (document : Document), document ∈ documents →
      before.insert name document = .ok after → motive before → motive after) :
    motive (collection.insertAll name documents).2 := by
  -- The induction is on the list, for every collection that it may meet.
  induction documents generalizing collection with
  | nil => exact hstart
  | cons document rest ih =>
    unfold insertAll
    cases hinsert : collection.insert name document with
    | error failure =>
      -- The list is given up here.
      exact hstart
    | ok larger =>
      refine ih (hstep _ _ _ List.mem_cons_self hinsert hstart) ?_
      intro before after document hmem
      exact hstep before after document (List.mem_cons_of_mem _ hmem)

/-- The collection after a change, whether or not it is carried out. -/
def changed (collection : Collection) (name : String) (id : ObjectId) (changes : Fields Bson) :
    Collection :=
  match collection.update name id changes with
  | .ok (some (_, _, after)) => after
  | _ => collection

/-- **A change that is carried out.** It is made at the place of the identifier, and the changed
document is compared with those at all other places. -/
theorem update_eq_ok {id : ObjectId} {changes : Fields Bson} {before after : Document}
    {result : Collection}
    (h : collection.update name id changes = .ok (some (before, after, result))) :
    ∃ place, collection.position? id = some place ∧
      collection.documents[place]? = some before ∧ after = before.applyChanges changes ∧
      collection.checkUnique name (collection.documents.eraseIdx place) after = .ok () ∧
      result = { collection with documents := collection.documents.set place after } := by
  -- A place, a document at it and the check are needed, in this order.
  unfold update at h
  cases hplace : collection.position? id with
  | none =>
    rw [hplace] at h
    cases h
  | some place =>
    rw [hplace] at h
    simp only at h
    cases hbefore : collection.documents[place]? with
    | none =>
      rw [hbefore] at h
      cases h
    | some old =>
      rw [hbefore] at h
      simp only at h
      cases hcheck : collection.checkUnique name (collection.documents.eraseIdx place)
          (old.applyChanges changes) with
      | error failure =>
        rw [hcheck] at h
        cases h
      | ok _ =>
        rw [hcheck] at h
        cases h
        exact ⟨place, rfl, hbefore, rfl, hcheck, rfl⟩

/-- A change is carried out, or the collection stays as it is. -/
theorem changed_cases (collection : Collection) (name : String) (id : ObjectId)
    (changes : Fields Bson) :
    (∃ before after, collection.update name id changes
        = .ok (some (before, after, collection.changed name id changes))) ∨
      (collection.changed name id changes = collection ∧
        ∀ result, collection.update name id changes ≠ .ok (some result)) := by
  unfold changed
  -- An update fails, finds no document or is carried out.
  rcases collection.update name id changes with failure | _ | ⟨before, after, result⟩
  · exact Or.inr ⟨rfl, by simp⟩
  · exact Or.inr ⟨rfl, by simp⟩
  · exact Or.inl ⟨before, after, rfl⟩

/-- The fields that are unique stay unique, and the new one is among them. -/
theorem mem_indexedFields_addUnique {field other : String} :
    field ∈ (collection.addUnique other).indexedFields ↔
      field ∈ collection.indexedFields ∨ field = other := by
  unfold addUnique indexedFields
  -- A field that is unique already is not added again.
  split
  · next h =>
    have hmem : other ∈ collection.uniqueFields := by simpa using h
    exact ⟨Or.inl, fun hor => hor.elim id fun heq => heq ▸ List.mem_cons_of_mem _ hmem⟩
  · simp [or_assoc]

theorem mem_indexedFields_foldl_addUnique {field : String} {fields : List String} :
    field ∈ (fields.foldl addUnique collection).indexedFields ↔
      field ∈ collection.indexedFields ∨ field ∈ fields := by
  induction fields generalizing collection with
  | nil => simp
  | cons other rest ih =>
    rw [List.foldl_cons, ih, mem_indexedFields_addUnique, List.mem_cons, or_assoc]

@[simp] theorem documents_addUnique (field : String) :
    (collection.addUnique field).documents = collection.documents := by
  unfold addUnique
  split <;> rfl

@[simp] theorem indexedFields_insertAll (documents : List Document) :
    (collection.insertAll name documents).2.indexedFields = collection.indexedFields := by
  -- Each insertion appends a document and leaves the fields.
  refine insertAll_induction (motive := fun after => after.indexedFields = collection.indexedFields)
    rfl ?_
  intro before after document _ hinsert hbefore
  obtain ⟨-, -, rfl⟩ := insert_eq_ok hinsert
  exact hbefore

@[simp] theorem indexedFields_changed (id : ObjectId) (changes : Fields Bson) :
    (collection.changed name id changes).indexedFields = collection.indexedFields := by
  -- A change sets a document, or does nothing.
  rcases collection.changed_cases name id changes with ⟨before, after, hupdate⟩ | ⟨hsame, -⟩
  · obtain ⟨place, -, -, -, -, hresult⟩ := update_eq_ok hupdate
    rw [hresult, indexedFields, indexedFields]
  · rw [hsame]

end Collection

namespace Store

variable (store : Store) (name other : String)

/-- What holds of the empty collection and of those that a store keeps holds of all that it has. -/
theorem collection_induction {motive : Collection → Prop} (hempty : motive .empty)
    (hkept : ∀ field ∈ store.collections, motive field.2) : motive (store.collection name) := by
  unfold Store.collection
  -- A name without a collection has the empty one.
  cases hget : Fields.get? store.collections name with
  | none => exact hempty
  | some collection => exact hkept _ (Fields.mem_of_get?_eq_some hget)

theorem collection_withCollection (collection : Collection) :
    (store.withCollection name collection).collection other =
      if name = other then collection else store.collection other := by
  unfold Store.collection withCollection
  -- Putting a collection under a name hides what was there, and nothing else.
  split
  · next h =>
    subst h
    rw [Fields.get?_insert_self, Option.getD_some]
  · next h => rw [Fields.get?_insert_of_ne h]

theorem collection_insertAll (documents : List Document) :
    (store.insertAll documents name).2.collection other =
      if name = other then ((store.collection name).insertAll name documents).2
      else store.collection other :=
  collection_withCollection store name other _

/-- An insertion of all documents into a store is one into the collection. -/
theorem collection_of_insertAll_eq_ok {store after : Store} {name : String}
    {documents : List Document} (h : store.insertAll documents name = (.ok (), after)) :
    (store.collection name).insertAll name documents = (.ok (), after.collection name) := by
  -- The outcome of the store is that of the collection.
  have houtcome : ((store.collection name).insertAll name documents).1 = .ok () :=
    congrArg Prod.fst h
  have hcollection := collection_insertAll store name name documents
  rw [h, if_pos rfl] at hcollection
  simp only at hcollection
  rw [← houtcome, hcollection]

theorem collection_update (id : ObjectId) (changes : Fields Bson) (returning : Returning) :
    (store.update id changes returning name).2.collection other =
      if name = other then (store.collection name).changed name id changes
      else store.collection other := by
  -- Without a change nothing is put back, which is the same as putting back what was there.
  have hunchanged : store.collection other
      = if name = other then store.collection name else store.collection other := by
    split
    · next h => rw [h]
    · rfl
  unfold Store.update Collection.changed
  -- Only the last of the three outcomes puts a collection back.
  rcases (store.collection name).update name id changes with failure | _ | ⟨before, after, result⟩
  · exact hunchanged
  · exact hunchanged
  · exact collection_withCollection store name other _

/-- The answer to a change that is carried out. -/
theorem update_fst_eq_ok {id : ObjectId} {changes : Fields Bson} {returning : Returning}
    {document : Document} :
    (store.update id changes returning name).1 = .ok (some document) ↔
      ∃ before after result,
        (store.collection name).update name id changes = .ok (some (before, after, result)) ∧
          document = match returning with | .before => before | .after => after := by
  unfold Store.update
  rcases (store.collection name).update name id changes with failure | _ | ⟨before, after, result⟩
  · simp
  · simp
  · -- The change has been carried out, and the answer is chosen from the two documents.
    constructor
    · intro h
      exact ⟨before, after, result, rfl, (Option.some.inj (Except.ok.inj h)).symm⟩
    · rintro ⟨before', after', result', h, rfl⟩
      cases h
      rfl

/-- A change that fails, or finds no document, leaves the store as it is. -/
theorem update_snd_of_ne {id : ObjectId} {changes : Fields Bson} {returning : Returning}
    {outcome : Except StoreError (Option Document)} {after : Store}
    (h : store.update id changes returning name = (outcome, after))
    (hne : ∀ document, outcome ≠ .ok (some document)) : after = store := by
  unfold Store.update at h
  -- In the first two cases the same store is given back, and the third is ruled out.
  rcases hupdate : (store.collection name).update name id changes with
    failure | _ | ⟨before, later, result⟩
  · rw [hupdate] at h
    cases h
    rfl
  · rw [hupdate] at h
    cases h
    rfl
  · rw [hupdate] at h
    cases h
    exact absurd rfl (hne _)

theorem collection_createIndex (field : String) (unique : Bool) :
    (store.createIndex name field unique).collection other =
      if name = other ∧ unique then (store.collection name).addUnique field
      else store.collection other := by
  unfold createIndex
  -- An index that is not unique is not kept.
  cases unique with
  | false => simp
  | true => simp [collection_withCollection]

theorem collection_drop :
    (store.drop name).collection other =
      if name = other then .empty else store.collection other := by
  have hget : Fields.get? (store.drop name).collections other
      = if name = other then none else Fields.get? store.collections other := by
    -- Names may be repeated in the list, and all fields of the name are removed.
    unfold drop
    induction store.collections with
    | nil => simp
    | cons field rest ih =>
      obtain ⟨key, collection⟩ := field
      rw [List.filter_cons]
      -- The field of the name is left out, and others keep their places.
      by_cases hkey : key = name
      · rw [if_neg (by simp [hkey]), ih, Fields.get?_cons, hkey]
        split <;> rfl
      · rw [if_pos (by simp [hkey]), Fields.get?_cons, Fields.get?_cons, ih]
        split
        · next h => rw [if_neg (by rw [← h]; exact Ne.symm hkey)]
        · rfl
  -- What is not there is the empty collection.
  unfold Store.collection
  rw [hget]
  split <;> rfl

end Store

end DocumentApi
