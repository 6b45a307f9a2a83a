import DocumentApi.Proofs.ObjectId.LetterCase
import DocumentApi.Proofs.Steps
import DocumentApi.Schema.Body

/-!
# What a body may hold

The values of a body are read one after another: references as identifiers, other values as what
they are stored as. This says for each reader, without running it, which values it takes, what it
makes of them, and how it refuses the others:

* `Schema.AcceptsField`, `Schema.StoresField` and `Schema.RefusesField` for the fields of a body, of
  which `Schema.readFields_eq_ok_iff` and `Schema.readFields_eq_error_iff` take all or refuse the
  first that is not taken;
* `Schema.Identifies` for the identifier of a document (`Schema.identifier_eq_ok_iff`,
  `Schema.identifier_eq_error_iff`).

Fields are read along a list and so are the references in a list, so that both are instances of
steps that follow each other.
-/

namespace DocumentApi

namespace Schema

variable {schema : Schema} {name : String} {value : Json} {stored : Bson} {failure : BodyError}

/-! ### References -/

/-- What a body may give for one reference: null, or the digits of an identifier. -/
inductive WritesReference : Json → Prop
  | null : WritesReference .null
  | hex {text : String} (h : ObjectId.IsHex text) : WritesReference (.str text)

/-- What one reference is stored as: null, or the identifier that its digits write. -/
inductive StoresReference : Json → Bson → Prop
  | null : StoresReference .null .null
  | id {text : String} {id : ObjectId} (h : ObjectId.ofHex? text = some id) :
      StoresReference (.str text) (.objectId id)

theorem writesReference_iff : WritesReference value ↔ ∃ stored, StoresReference value stored := by
  constructor
  · -- What is written as a reference has the digits of an identifier, which is then stored.
    rintro (_ | hhex)
    · exact ⟨.null, .null⟩
    · obtain ⟨id, hid⟩ := Option.isSome_iff_exists.mp (ObjectId.isSome_ofHex?_iff.mpr hhex)
      exact ⟨.objectId id, .id hid⟩
  · rintro ⟨_, _ | hid⟩
    · exact .null
    · exact .hex (ObjectId.isSome_ofHex?_iff.mp (Option.isSome_of_eq_some hid))

theorem readReference_eq_ok_iff :
    readReference name value = .ok stored ↔ StoresReference value stored := by
  constructor
  · intro h
    -- Of all kinds of values only null and texts are read.
    cases value with
    | null =>
      cases h
      exact .null
    | str text =>
      rw [readReference, readId] at h
      · obtain ⟨id, hid, rfl⟩ := exists_of_map_eq_ok h
        split at hid
        · -- The text is read, so its digits are those of the identifier.
          next hread =>
          cases hid
          exact .id hread
        · cases hid
      · exact fun hnull => Json.noConfusion hnull
    | _ => cases h
  · -- Null and the digits of an identifier are both read back.
    rintro (_ | hid)
    · rfl
    · rw [readReference, readId, hid]
      · rfl
      · exact fun hnull => Json.noConfusion hnull

theorem exists_readReference_eq_ok_iff (name : String) :
    (∃ stored, readReference name value = .ok stored) ↔ WritesReference value := by
  rw [writesReference_iff]
  exact exists_congr fun _ => readReference_eq_ok_iff

/-- What is no reference is shown in the refusal, whatever kind of value it is. -/
theorem readReference_of_not_writesReference (h : ¬ WritesReference value) :
    readReference name value = .error (.notAnId name (shown value)) := by
  -- Null is a reference, a text is none because of its digits, and no other value is one.
  cases value with
  | null => exact absurd .null h
  | str text =>
    have hnone : ObjectId.ofHex? text = none := by
      rw [← Option.not_isSome_iff_eq_none, ObjectId.isSome_ofHex?_iff]
      exact fun hhex => h (.hex hhex)
    rw [readReference, readId, hnone]
    · rfl
    · exact fun hnull => Json.noConfusion hnull
  | _ => rfl

/-- **One reference** is refused with its value, if it is not one. -/
theorem readReference_eq_error_iff :
    readReference name value = .error failure
      ↔ ¬ WritesReference value ∧ failure = .notAnId name (shown value) := by
  constructor
  · intro h
    -- Had it been a reference, there would be a stored value instead of a failure.
    have hnot : ¬ WritesReference value := by
      rw [← exists_readReference_eq_ok_iff name]
      rintro ⟨stored, hstored⟩
      rw [hstored] at h
      cases h
    rw [readReference_of_not_writesReference hnot] at h
    exact ⟨hnot, (Except.error.inj h).symm⟩
  · rintro ⟨hnot, rfl⟩
    exact readReference_of_not_writesReference hnot

theorem readReferences_eq_mapM (items : List Json) :
    readReferences name items = items.mapM (readReference name) := by
  induction items with
  | nil => rfl
  | cons item rest ih => rw [readReferences, List.mapM_cons, ih]

/-! ### Fields -/

/-- What a body may give for a reference field: one reference, or a list of them. -/
inductive WritesReferences : Json → Prop
  | one {value : Json} (h : WritesReference value) : WritesReferences value
  | list {items : List Json} (h : ∀ item ∈ items, WritesReference item) :
      WritesReferences (.arr items)

/-- What a reference field is stored as: one reference, or the list of them. -/
inductive StoresReferences : Json → Bson → Prop
  | one {value : Json} {stored : Bson} (h : StoresReference value stored) :
      StoresReferences value stored
  | list {items : List Json} {stored : List Bson} (h : List.Forall₂ StoresReference items stored) :
      StoresReferences (.arr items) (.array stored)

/-- Whether a field of a body may have its value: a reference field references, and any other field
what has a stored form. -/
def AcceptsField (schema : Schema) (field : String × Json) : Prop :=
  if (schema.reference? field.1).isSome then WritesReferences field.2
  else ∃ stored, Bson.ofJson field.2 = .ok stored

/-- What a field of a body is stored as: a reference field as references, and any other field in
its stored form. -/
def StoresField (schema : Schema) (field : String × Json) (stored : Bson) : Prop :=
  if (schema.reference? field.1).isSome then StoresReferences field.2 stored
  else Bson.ofJson field.2 = .ok stored

/-- How a field of a body is refused: a value without a stored form by the reason for it, and in a
reference field the value that is no reference, or the first such value of a list. -/
inductive RefusesField (schema : Schema) (name : String) : Json → BodyError → Prop
  | value {value : Json} {cause : Bson.ConversionError} (hname : schema.reference? name = none)
      (h : Bson.ofJson value = .error cause) : RefusesField schema name value (.notStorable cause)
  | reference {value : Json} (hname : (schema.reference? name).isSome)
      (hlist : ∀ items, value ≠ .arr items) (h : ¬ WritesReference value) :
      RefusesField schema name value (.notAnId name (shown value))
  | item {before after : List Json} {item : Json} (hname : (schema.reference? name).isSome)
      (hbefore : ∀ earlier ∈ before, WritesReference earlier) (h : ¬ WritesReference item) :
      RefusesField schema name (.arr (before ++ item :: after)) (.notAnId name (shown item))

theorem writesReferences_iff :
    WritesReferences value ↔ ∃ stored, StoresReferences value stored := by
  constructor
  · -- One reference is stored alone, and of a list each item.
    rintro (hone | hlist)
    · obtain ⟨stored, hstored⟩ := writesReference_iff.mp hone
      exact ⟨stored, .one hstored⟩
    · -- Each item is stored as something, so that the list is stored as the list of these.
      obtain ⟨stored, hstored⟩ :=
        exists_forall₂_iff.mpr fun item hitem => writesReference_iff.mp (hlist item hitem)
      exact ⟨.array stored, .list hstored⟩
  · rintro ⟨_, hone | hlist⟩
    · exact .one (writesReference_iff.mpr ⟨_, hone⟩)
    · exact .list fun item hitem =>
        writesReference_iff.mpr (exists_forall₂_iff.mp ⟨_, hlist⟩ item hitem)

theorem acceptsField_iff {field : String × Json} :
    schema.AcceptsField field ↔ ∃ stored, schema.StoresField field stored := by
  unfold AcceptsField StoresField
  split
  · exact writesReferences_iff
  · exact Iff.rfl

/-- **A field that is taken** is stored as what it gives. -/
theorem readField_eq_ok_iff :
    schema.readField name value = .ok stored ↔ schema.StoresField (name, value) stored := by
  unfold readField StoresField
  simp only
  -- The schema says which of the readers is used for the field.
  cases hname : schema.reference? name with
  | none =>
    -- An ordinary field is refused for its conversion only, which does not change what is stored.
    rw [Option.isNone_none, if_pos rfl, Option.isSome_none, if_neg Bool.false_ne_true]
    refine ⟨eq_ok_of_mapError_eq_ok, fun h => ?_⟩
    rw [h]
    rfl
  | some target =>
    rw [Option.isNone_some, if_neg Bool.false_ne_true, Option.isSome_some, if_pos rfl]
    -- A list is read item by item, and anything else as one reference.
    split
    · next items =>
      constructor
      · intro h
        -- All items have been read, each as the item in its place.
        obtain ⟨results, hresults, rfl⟩ := exists_of_map_eq_ok h
        rw [readReferences_eq_mapM, mapM_eq_ok_iff] at hresults
        exact .list (hresults.imp fun _ _ => readReference_eq_ok_iff.mp)
      · rintro (hone | hlist)
        · -- A list is not one reference.
          cases hone
        · have hresults : List.Forall₂ (fun item result => readReference name item = .ok result)
              items _ := hlist.imp fun _ _ => readReference_eq_ok_iff.mpr
          rw [← mapM_eq_ok_iff, ← readReferences_eq_mapM] at hresults
          rw [hresults]
          rfl
    · next hlist =>
      rw [readReference_eq_ok_iff]
      constructor
      · -- What is no list is stored as one reference.
        exact .one
      · rintro (hone | _)
        · exact hone
        · exact absurd rfl (hlist _)

/-- An ordinary field is refused for the reason that its conversion gives. -/
theorem refusesField_of_eq_none (hname : schema.reference? name = none) :
    schema.RefusesField name value failure
      ↔ ∃ cause, Bson.ofJson value = .error cause ∧ failure = .notStorable cause := by
  constructor
  · -- The other two refusals are those of reference fields.
    rintro (⟨-, hcause⟩ | ⟨hsome, -, -⟩ | ⟨hsome, -, -⟩)
    · exact ⟨_, hcause, rfl⟩
    all_goals
      rw [hname] at hsome
      cases hsome
  · rintro ⟨cause, hcause, rfl⟩
    exact .value hname hcause

/-- A list in a reference field is refused for its first item that is no reference. -/
theorem refusesField_arr (hname : (schema.reference? name).isSome) {items : List Json} :
    schema.RefusesField name (.arr items) failure
      ↔ ∃ before item after, items = before ++ item :: after ∧
          (∀ earlier ∈ before, WritesReference earlier) ∧
          ¬ WritesReference item ∧ failure = .notAnId name (shown item) := by
  constructor
  · rintro (⟨hnone, -⟩ | ⟨-, hlist, -⟩ | ⟨-, hbefore, hnot⟩)
    · rw [hnone] at hname
      cases hname
    · -- One value is refused as a whole only if it is no list.
      exact absurd rfl (hlist items)
    · exact ⟨_, _, _, rfl, hbefore, hnot, rfl⟩
  · rintro ⟨before, item, after, rfl, hbefore, hnot, rfl⟩
    exact .item hname hbefore hnot

/-- Any other value in a reference field is refused as a whole. -/
theorem refusesField_of_ne_arr (hname : (schema.reference? name).isSome)
    (hlist : ∀ items, value ≠ .arr items) :
    schema.RefusesField name value failure
      ↔ ¬ WritesReference value ∧ failure = .notAnId name (shown value) := by
  constructor
  · rintro (⟨hnone, -⟩ | ⟨-, -, hnot⟩ | ⟨-, -, -⟩)
    · rw [hnone] at hname
      cases hname
    · exact ⟨hnot, rfl⟩
    · exact absurd rfl (hlist _)
  · rintro ⟨hnot, rfl⟩
    exact .reference hname hlist hnot

/-- **A field that is refused**, and why. -/
theorem readField_eq_error_iff :
    schema.readField name value = .error failure ↔ schema.RefusesField name value failure := by
  unfold readField
  -- The reasons for refusals differ with the reader, as the values that are taken do.
  cases hname : schema.reference? name with
  | none =>
    rw [Option.isNone_none, if_pos rfl, refusesField_of_eq_none hname, mapError_eq_error_iff]
  | some target =>
    have hsome : (schema.reference? name).isSome := Option.isSome_of_eq_some hname
    rw [Option.isNone_some, if_neg Bool.false_ne_true]
    split
    · next items =>
      -- The items are read in turn, and reading stops at the first that is no reference.
      rw [refusesField_arr hsome, map_eq_error_iff, readReferences_eq_mapM, mapM_eq_error_iff]
      simp only [exists_readReference_eq_ok_iff, readReference_eq_error_iff]
    · next hlist =>
      rw [refusesField_of_ne_arr hsome hlist, readReference_eq_error_iff]

/-! ### Bodies -/

/-- The fields of a body other than the identifier. -/
def otherFields (body : Fields Json) : Fields Json :=
  body.filter (·.1 ≠ idField)

variable {body : Fields Json}

theorem readFields_eq_mapM (schema : Schema) (body : Fields Json) :
    schema.readFields body = (otherFields body).mapM fun field =>
      (schema.readField field.1 field.2).map fun stored => (field.1, stored) := by
  induction body with
  | nil => rfl
  | cons field rest ih =>
    obtain ⟨name, value⟩ := field
    unfold otherFields at ih ⊢
    rw [readFields]
    -- The identifier is read on its own and leaves no field here.
    by_cases hname : name = idField
    · rw [if_pos hname, List.filter_cons_of_neg (by simpa using hname), ih]
    · rw [if_neg hname, List.filter_cons_of_pos (by simpa using hname), List.mapM_cons, ih]
      cases schema.readField name value <;> rfl

/-- **A body whose fields are all taken** is stored field by field. -/
theorem readFields_eq_ok_iff {fields : Fields Bson} :
    schema.readFields body = .ok fields
      ↔ List.Forall₂ (fun sent stored => stored.1 = sent.1 ∧ schema.StoresField sent stored.2)
          (otherFields body) fields := by
  rw [readFields_eq_mapM, mapM_eq_ok_iff]
  -- One field: its name stays, and its value is read.
  have hfield : ∀ (sent : String × Json) (stored : String × Bson),
      (schema.readField sent.1 sent.2).map (fun value => (sent.1, value)) = .ok stored
        ↔ stored.1 = sent.1 ∧ schema.StoresField sent stored.2 := by
    intro sent stored
    rw [← readField_eq_ok_iff]
    constructor
    · intro h
      obtain ⟨value, hvalue, rfl⟩ := exists_of_map_eq_ok h
      exact ⟨rfl, hvalue⟩
    · rintro ⟨hname, hvalue⟩
      rw [hvalue, ← hname]
      rfl
  simp only [hfield]

/-- **The first field that is not taken** is what a body is refused for. -/
theorem readFields_eq_error_iff :
    schema.readFields body = .error failure
      ↔ ∃ before field after, otherFields body = before ++ field :: after ∧
          (∀ earlier ∈ before, schema.AcceptsField earlier) ∧
          schema.RefusesField field.1 field.2 failure := by
  rw [readFields_eq_mapM, mapM_eq_error_iff]
  have hok : ∀ field : String × Json,
      (∃ result,
          (schema.readField field.1 field.2).map (fun stored => (field.1, stored)) = .ok result)
        ↔ schema.AcceptsField field := by
    -- That a field is taken does not depend on its name being kept.
    intro field
    rw [acceptsField_iff]
    constructor
    · rintro ⟨result, h⟩
      obtain ⟨stored, hstored, -⟩ := exists_of_map_eq_ok h
      exact ⟨stored, readField_eq_ok_iff.mp hstored⟩
    · rintro ⟨stored, hstored⟩
      rw [readField_eq_ok_iff.mpr hstored]
      exact ⟨_, rfl⟩
  simp only [hok, map_eq_error_iff, readField_eq_error_iff]

/-! ### Identifiers -/

variable {fresh id : ObjectId}

/-- The identifier of a document to insert: a fresh one if the body gives none or null, and
otherwise the one whose digits it gives. -/
inductive Identifies (fresh : ObjectId) (body : Fields Json) : ObjectId → Prop
  | absent (h : Fields.get? body idField = none) : Identifies fresh body fresh
  | null (h : Fields.get? body idField = some .null) : Identifies fresh body fresh
  | given {text : String} {id : ObjectId} (h : Fields.get? body idField = some (.str text))
      (hid : ObjectId.ofHex? text = some id) : Identifies fresh body id

/-- Whether a body may have its identifier, if it has one. -/
def AcceptsIdentifier (body : Fields Json) : Prop :=
  ∀ value, Fields.get? body idField = some value → WritesReference value

theorem acceptsIdentifier_iff (fresh : ObjectId) :
    AcceptsIdentifier body ↔ ∃ id, Identifies fresh body id := by
  constructor
  · intro h
    -- An absent identifier is made, as it is for null.
    cases hvalue : Fields.get? body idField with
    | none => exact ⟨fresh, .absent hvalue⟩
    | some value =>
      obtain _ | hhex := h value hvalue
      · exact ⟨fresh, .null hvalue⟩
      · obtain ⟨id, hid⟩ := Option.isSome_iff_exists.mp (ObjectId.isSome_ofHex?_iff.mpr hhex)
        exact ⟨id, .given hvalue hid⟩
  · -- The three ways to give an identifier are three kinds of values, all of them taken.
    rintro ⟨id, hnone | hnull | ⟨hgiven, hid⟩⟩ value hvalue
    · rw [hnone] at hvalue
      cases hvalue
    · obtain rfl : .null = value := Option.some.inj (hnull.symm.trans hvalue)
      exact .null
    · obtain rfl : .str _ = value := Option.some.inj (hgiven.symm.trans hvalue)
      exact .hex (ObjectId.isSome_ofHex?_iff.mp (Option.isSome_of_eq_some hid))

/-- A value that is not null is read as the identifier like a reference. -/
theorem map_readId (hne : value ≠ .null) :
    (readId name value).map Bson.objectId = readReference name value := by
  cases value with
  | null => exact absurd rfl hne
  | _ => rfl

theorem identifier_eq_ok_iff : identifier fresh body = .ok id ↔ Identifies fresh body id := by
  unfold identifier
  constructor
  · intro h
    -- There are three cases: nothing, null, or a value that has to be read.
    split at h
    · next hnone =>
      cases h
      exact .absent hnone
    · next hnull =>
      cases h
      exact .null hnull
    · -- What is given is read as one reference, and only digits give an identifier.
      next value hne hvalue =>
      have hread : readReference idField value = .ok (.objectId id) := by
        rw [← map_readId hne, h]
        rfl
      obtain _ | hid := readReference_eq_ok_iff.mp hread
      exact .given hvalue hid
  · rintro (hnone | hnull | ⟨hvalue, hid⟩)
    · rw [hnone]
    · rw [hnull]
    · rw [hvalue]
      simp only [readId, hid]

/-- **The identifier** is refused with the value that is given for it. -/
theorem identifier_eq_error_iff :
    identifier fresh body = .error failure
      ↔ ∃ value, Fields.get? body idField = some value ∧ ¬ WritesReference value ∧
          failure = .notAnId idField (shown value) := by
  unfold identifier
  split
  · -- Nothing is refused where nothing is given.
    next hnone =>
    refine iff_of_false (fun h => by cases h) ?_
    rintro ⟨value, hvalue, -⟩
    rw [hnone] at hvalue
    cases hvalue
  · -- Null asks for a fresh identifier and is not refused.
    next hnull =>
    refine iff_of_false (fun h => by cases h) ?_
    rintro ⟨value, hvalue, hnot, -⟩
    rw [hnull] at hvalue
    cases hvalue
    exact hnot .null
  · -- All other values are read as one reference is, and refused with it.
    next value hne hvalue =>
    rw [← map_eq_error_iff, map_readId hne,
      readReference_eq_error_iff]
    constructor
    · exact fun h => ⟨value, hvalue, h⟩
    · rintro ⟨other, hother, h⟩
      obtain rfl : value = other := Option.some.inj (hvalue.symm.trans hother)
      exact h

end Schema

end DocumentApi
