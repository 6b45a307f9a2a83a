import DocumentApi.Proofs.Document.Field
import DocumentApi.Proofs.Schema.NewDocument

/-!
# Reference fields

A field that a schema declares as a reference is meant to hold an identifier, null, or a list of
both (`Bson.HoldsReferences`). A document whose reference fields do so `KeepsReferences`.

* `Document.keepsReferences_of_newDocument` — a document that is prepared for insertion does, as
  long as the values that absent fields start with are of this shape (`Schema.StartsWithReferences`);
* `Document.KeepsReferences.applyChanges` — the changes that a body makes keep it so, unless the
  last change that touches a reference field leads into it: the value of such a change has not been
  read as a reference, because its name is not that of the field.
-/

namespace DocumentApi

/-! ### References -/

namespace Bson

/-- Whether a value is one reference: an identifier or null. -/
inductive IsReference : Bson → Prop
  | null : IsReference .null
  | objectId (id : ObjectId) : IsReference (.objectId id)

/-- Whether a value is one reference or a list of them. -/
inductive HoldsReferences : Bson → Prop
  | one {value : Bson} (h : value.IsReference) : HoldsReferences value
  | many {items : List Bson} (h : ∀ item ∈ items, item.IsReference) : HoldsReferences (.array items)

theorem not_holdsReferences_document (fields : Document) : ¬ HoldsReferences (.document fields) := by
  rintro ⟨⟨⟩⟩

theorem not_holdsReferences_bool (value : Bool) : ¬ HoldsReferences (.bool value) := by
  rintro ⟨⟨⟩⟩

end Bson

namespace Schema

variable {schema : Schema}

theorem isReference_of_readReference {path : String} {value : Json} {stored : Bson}
    (h : readReference path value = .ok stored) : stored.IsReference := by
  unfold readReference at h
  -- Null is stored as null, and digits as an identifier; all else is refused.
  split at h
  · cases h
    exact .null
  · obtain ⟨id, -, rfl⟩ := exists_of_map_eq_ok h
    exact .objectId id

theorem isReference_of_readReferences {path : String} {values : List Json} {stored : List Bson}
    (h : readReferences path values = .ok stored) : ∀ item ∈ stored, item.IsReference := by
  -- Each item has been read as a reference before the next one.
  induction values generalizing stored with
  | nil =>
    cases h
    exact fun _ hmem => absurd hmem List.not_mem_nil
  | cons value rest ih =>
    rw [readReferences] at h
    obtain ⟨first, hfirst, h⟩ := exists_of_bind_eq_ok h
    obtain ⟨others, hothers, h⟩ := exists_of_bind_eq_ok h
    cases h
    exact List.forall_mem_cons.mpr ⟨isReference_of_readReference hfirst, ih hothers⟩

/-- **A reference field of a body** is read as a reference or as a list of them. -/
theorem holdsReferences_of_readField {name : String} {value : Json} {stored : Bson}
    (hname : (schema.reference? name).isSome) (h : schema.readField name value = .ok stored) :
    stored.HoldsReferences := by
  have hsome : ¬ (schema.reference? name).isNone = true := by
    rw [Option.isNone_eq_false_iff.mpr hname]
    exact Bool.false_ne_true
  unfold readField at h
  rw [if_neg hsome] at h
  -- A list is stored as the list of its references, and one value as one.
  split at h
  · obtain ⟨items, hitems, rfl⟩ := exists_of_map_eq_ok h
    exact .many (isReference_of_readReferences hitems)
  · exact .one (isReference_of_readReference h)

/-- Every field that is stored has been read from a field of the body. -/
theorem exists_readField_of_mem {body : Fields Json} {stored : Fields Bson}
    (h : schema.readFields body = .ok stored) {field : String × Bson} (hfield : field ∈ stored) :
    ∃ value, schema.readField field.1 value = .ok field.2 := by
  induction body generalizing stored with
  | nil =>
    cases h
    cases hfield
  | cons sent rest ih =>
    obtain ⟨name, value⟩ := sent
    rw [readFields] at h
    -- The identifier is passed over, and every other field of the body adds one that is stored.
    split at h
    · exact ih h hfield
    · obtain ⟨first, hfirst, h⟩ := exists_of_bind_eq_ok h
      obtain ⟨others, hothers, h⟩ := exists_of_bind_eq_ok h
      cases h
      rcases List.mem_cons.mp hfield with rfl | hbehind
      · exact ⟨value, hfirst⟩
      · exact ih hothers hbehind

/-- **A change that names a reference field** gives it references. -/
theorem holdsReferences_of_mem_changes {body : Fields Json} {changes : Fields Bson}
    (h : schema.changes body = .ok changes) {field : String × Bson} (hfield : field ∈ changes)
    (hname : (schema.reference? field.1).isSome) : field.2.HoldsReferences := by
  -- The changes are the stored fields, of which a repeated name keeps the last value.
  obtain ⟨stored, hstored, rfl⟩ := exists_of_map_eq_ok h
  obtain ⟨value, hvalue⟩ := exists_readField_of_mem hstored (Fields.mem_of_mem_ofPairs hfield)
  exact holdsReferences_of_readField hname hvalue

/-- Whether the values that absent reference fields start with are of the right shape. -/
def StartsWithReferences (schema : Schema) : Prop :=
  ∀ field ∈ schema.defaults, (schema.reference? field.1).isSome → field.2.HoldsReferences

/-- A field of a document that has been filled in was there before, or starts with its value. -/
theorem get?_fillFields_cases {document : Document} {name : String} {value : Bson}
    (h : Fields.get? (schema.fillFields document) name = some value) :
    Fields.get? document name = some value ∨ (name, value) ∈ schema.defaults := by
  unfold fillFields at h
  unfold defaults
  generalize schema.fields = fields at h ⊢
  -- The induction is on the declared fields: the first is filled in, then the others.
  induction fields generalizing document with
  | nil => exact Or.inl h
  | cons field rest ih =>
    rw [List.filterMap_cons]
    rw [List.foldl_cons] at h
    -- The value was there after the first field, or one of the later ones starts with it.
    rcases ih h with hfilled | hlater
    · unfold fillField at hfilled
      cases hinitial : field.initial with
      | none =>
        rw [hinitial] at hfilled
        exact Or.inl hfilled
      | some initial =>
        rw [hinitial] at hfilled
        simp only at hfilled
        split at hfilled
        · exact Or.inl hfilled
        · by_cases hname : field.name = name
          · -- The field is the one that has just been filled in.
            subst hname
            rw [Fields.get?_insert_self, Option.some.injEq] at hfilled
            rw [hfilled]
            -- Filling in another field does not change this one.
            exact Or.inr List.mem_cons_self
          · rw [Fields.get?_insert_of_ne hname] at hfilled
            exact Or.inl hfilled
    · -- A later field starts with the value, and is declared behind the first one.
      refine Or.inr ?_
      cases field.initial with
      | none => exact hlater
      | some initial => exact List.mem_cons_of_mem _ hlater

end Schema

/-! ### Documents -/

namespace Document

/-- Whether all reference fields that a document has hold references. -/
def KeepsReferences (schema : Schema) (document : Document) : Prop :=
  ∀ name value, (schema.reference? name).isSome → Fields.get? document name = some value →
    value.HoldsReferences

variable {schema : Schema} {document : Document}

/-- **A new document** keeps references. -/
theorem keepsReferences_of_newDocument (hstart : schema.StartsWithReferences) {fresh : ObjectId}
    {body : Fields Json} (h : schema.newDocument fresh body = .ok document) :
    document.KeepsReferences schema := by
  obtain ⟨id, stored, -, hstored, rfl⟩ := Schema.newDocument_eq_ok h
  intro name value hname hvalue
  -- What is in a new document was given by the body or by the schema.
  rcases Schema.get?_fillFields_cases hvalue with hsent | hdefault
  · -- The field is the identifier, or a field of the body.
    rcases List.mem_cons.mp (Fields.mem_of_mem_ofPairs (Fields.mem_of_get?_eq_some hsent)) with
      hid | hmem
    · obtain ⟨-, rfl⟩ := Prod.mk.inj hid
      exact .one (.objectId id)
    · obtain ⟨sent, hread⟩ := Schema.exists_readField_of_mem hstored hmem
      exact Schema.holdsReferences_of_readField hname hread
  · exact hstart _ hdefault hname

/-- Whether the last of some changes that touches a reference field of a schema leads into it. -/
def ChangesInsideReference (schema : Schema) (changes : Fields Bson) : Prop :=
  ∃ name change, (schema.reference? name).isSome ∧ lastTouching? name changes = some change ∧
    LeadsInto name change.1

/-- **Changes** keep references, unless they end inside one. -/
theorem KeepsReferences.applyChanges (h : document.KeepsReferences schema) {body : Fields Json}
    {changes : Fields Bson} (hchanges : schema.changes body = .ok changes)
    (hinside : ¬ ChangesInsideReference schema changes) :
    (document.applyChanges changes).KeepsReferences schema := by
  intro name value hname hvalue
  -- Only the last change that touches the field matters for its value.
  cases hlast : lastTouching? name changes with
  | none =>
    -- No change touches it, so it is as it was.
    rw [get?_applyChanges_of_lastTouching?_eq_none hlast] at hvalue
    exact h name value hname hvalue
  | some change =>
    obtain ⟨hmem, hhead⟩ := head?_segments_of_lastTouching? hlast
    -- The change is made to the field itself, or leads into it.
    rcases segments_cases hhead with hends | hleads
    · -- The change names the field, so that its value has been read as a reference.
      obtain ⟨before, hbefore⟩ := get?_applyChanges_of_lastTouching? hlast document
      rw [hbefore, get?_applyChange_of_segments hends, Option.some.injEq] at hvalue
      rw [← hvalue]
      refine Schema.holdsReferences_of_mem_changes hchanges hmem ?_
      rw [eq_of_segments_eq_singleton hends]
      exact hname
    · exact absurd ⟨name, change, hname, hlast, hleads⟩ hinside

/-- **Changes that end inside a reference** put a document in its place. -/
theorem not_keepsReferences_applyChanges {changes : Fields Bson}
    (h : ChangesInsideReference schema changes) (document : Document) :
    ¬ (document.applyChanges changes).KeepsReferences schema := by
  obtain ⟨name, change, hname, hlast, hleads⟩ := h
  -- Before this change the document is unknown, but the change puts a document under the name.
  obtain ⟨before, hbefore⟩ := get?_applyChanges_of_lastTouching? hlast document
  obtain ⟨fields, hfields⟩ :
      ∃ fields, Fields.get? (applyChange before change) name = some (.document fields) :=
    get?_applyChange_of_leadsInto hleads
  -- A document is no reference.
  intro hkeeps
  exact Bson.not_holdsReferences_document fields
    (hkeeps name _ hname (hbefore.trans hfields))

end Document

end DocumentApi
