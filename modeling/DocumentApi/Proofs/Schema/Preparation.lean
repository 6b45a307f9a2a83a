import DocumentApi.Operation
import DocumentApi.Proofs.Document.Identifier

/-!
# Prepared documents

What is known of documents that have been prepared for insertion:

* `Schema.isSome_id?_of_newDocument` — each of them has an identifier, whatever the body and the
  schema are, because the identifier comes first and neither the other fields of the body nor the
  values that absent fields start with replace it;
* `Operation.getElem?_of_prepareAll` — the documents for a list of objects are those of the objects,
  place by place.
-/

namespace DocumentApi

/-- Inserting fields of other names leaves the value of a field as it is. -/
theorem Fields.get?_foldl_insert_of_notMem {α : Type} {pairs : List (String × α)} {name : String}
    (h : name ∉ keys pairs) (fields : Fields α) :
    get? (pairs.foldl (fun fields pair => insert fields pair.1 pair.2) fields) name
      = get? fields name := by
  induction pairs generalizing fields with
  | nil => rfl
  | cons pair rest ih =>
    obtain ⟨key, value⟩ := pair
    -- No name that is inserted is the one that is read.
    rw [keys_cons, List.mem_cons, not_or] at h
    rw [List.foldl_cons, ih h.2, get?_insert_of_ne (Ne.symm h.1)]

namespace Schema

/-- Values that absent fields start with replace none that is there. -/
theorem get?_fillFields {schema : Schema} {document : Document} {name : String} {value : Bson}
    (h : Fields.get? document name = some value) :
    Fields.get? (schema.fillFields document) name = some value := by
  unfold fillFields
  -- The fields of the schema are filled in one after another, each leaving the value.
  induction schema.fields generalizing document with
  | nil => exact h
  | cons field rest ih =>
    refine ih ?_
    unfold fillField
    split
    · split
      · exact h
      · next habsent =>
        -- The field that is filled is absent, so it is another one.
        have hne : field.name ≠ name := by
          rintro rfl
          rw [Fields.contains, h] at habsent
          exact habsent rfl
        rw [Fields.get?_insert_of_ne hne, h]
    · exact h

/-- What a new document is made of. -/
theorem newDocument_eq_ok {schema : Schema} {fresh : ObjectId} {sent : Fields Json}
    {document : Document} (h : schema.newDocument fresh sent = .ok document) :
    ∃ id stored, identifier fresh sent = .ok id ∧ schema.readFields sent = .ok stored ∧
      document = schema.fillFields (Fields.ofPairs ((idField, .objectId id) :: stored)) := by
  unfold newDocument at h
  -- The identifier is read first, then the other fields, then the required ones are looked at.
  obtain ⟨id, hid, h⟩ := exists_of_bind_eq_ok h
  obtain ⟨stored, hstored, h⟩ := exists_of_bind_eq_ok h
  simp only at h
  split at h
  · -- All that is required is there, or the body is refused.
    cases h
    exact ⟨id, stored, hid, hstored, rfl⟩
  · cases h

/-- **A prepared document has an identifier.** -/
theorem isSome_id?_of_newDocument {schema : Schema} {fresh : ObjectId} {body : Fields Json}
    {document : Document} (h : schema.newDocument fresh body = .ok document) :
    document.id?.isSome := by
  -- The document is that of the identifier and the fields, filled in with starting values.
  obtain ⟨id, stored, -, hstored, rfl⟩ := newDocument_eq_ok h
  have hnotMem : idField ∉ Fields.keys stored := by
    rw [keys_readFields hstored]
    simp
  -- The identifier is inserted first, and the fields of the body have other names.
  have hget : Fields.get? (Fields.ofPairs ((idField, .objectId id) :: stored)) idField
      = some (.objectId id) :=
    Fields.get?_foldl_insert_of_notMem hnotMem _
  unfold Document.id?
  rw [get?_fillFields hget]
  rfl

end Schema

namespace Operation

/-- **Preparing several objects** is preparing each of them. -/
theorem getElem?_of_prepareAll {schema : Schema} {ids : Nat → ObjectId} {start : Nat}
    {objects : List (Fields Json)} {documents : List Document}
    (h : prepareAll schema ids start objects = .ok documents) (place : Nat) :
    (documents[place]?).map Except.ok
      = (objects[place]?).map fun object => schema.newDocument (ids (start + place)) object := by
  -- The place is counted from the first object, so the induction is for all starts and places.
  induction objects generalizing start documents place with
  | nil =>
    cases h
    rfl
  | cons object rest ih =>
    rw [prepareAll] at h
    obtain ⟨document, hdocument, h⟩ := exists_of_bind_eq_ok h
    obtain ⟨others, hothers, h⟩ := exists_of_bind_eq_ok h
    cases h
    -- The first object makes the first document, and the others follow at the next numbers.
    cases place with
    | zero => simp [hdocument]
    | succ place =>
      -- The identifiers are counted on from the start.
      have hplace : start + (place + 1) = start + 1 + place := by omega
      rw [List.getElem?_cons_succ, List.getElem?_cons_succ, ih hothers, hplace]

theorem length_of_prepareAll {schema : Schema} {ids : Nat → ObjectId} {start : Nat}
    {objects : List (Fields Json)} {documents : List Document}
    (h : prepareAll schema ids start objects = .ok documents) :
    documents.length = objects.length := by
  -- Both lists have the same places.
  have hplaces : ∀ place : Nat, documents[place]? = none ↔ objects[place]? = none := by
    intro place
    have hplace := getElem?_of_prepareAll h place
    -- A place is in one of the lists exactly if it is in the other.
    cases hdocument : documents[place]? <;> cases hobject : objects[place]? <;>
      simp [hdocument, hobject] at hplace ⊢
  refine Nat.le_antisymm ?_ ?_
  · exact List.getElem?_eq_none_iff.mp ((hplaces objects.length).mpr (by simp))
  · exact List.getElem?_eq_none_iff.mp ((hplaces documents.length).mp (by simp))

/-- Every prepared document is that of some object. -/
theorem exists_newDocument_of_mem {schema : Schema} {ids : Nat → ObjectId} {start : Nat}
    {objects : List (Fields Json)} {documents : List Document}
    (h : prepareAll schema ids start objects = .ok documents) {document : Document}
    (hmem : document ∈ documents) :
    ∃ fresh object, schema.newDocument fresh object = .ok document := by
  obtain ⟨place, hplace⟩ := List.mem_iff_getElem?.mp hmem
  have hprepared := getElem?_of_prepareAll h place
  rw [hplace, Option.map_some] at hprepared
  obtain ⟨object, -, hobject⟩ := Option.map_eq_some_iff.mp hprepared.symm
  exact ⟨_, object, hobject⟩

/-- All prepared documents have identifiers. -/
theorem isSome_id?_of_prepareAll {schema : Schema} {ids : Nat → ObjectId} {start : Nat}
    {objects : List (Fields Json)} {documents : List Document}
    (h : prepareAll schema ids start objects = .ok documents) :
    ∀ document ∈ documents, document.id?.isSome := by
  intro document hmem
  obtain ⟨fresh, object, hobject⟩ := exists_newDocument_of_mem h hmem
  exact Schema.isSome_id?_of_newDocument hobject

end Operation

end DocumentApi
