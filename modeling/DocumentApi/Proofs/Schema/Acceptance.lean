import DocumentApi.Proofs.Schema.Blank
import DocumentApi.Proofs.Schema.NewDocument

/-!
# Which bodies make a document

A body is made into a document in four passes: the identifier is read, then the other fields, then
absent fields get the value that they start with, and at last the required fields are looked at. A
value that a field starts with can satisfy the last pass, and null counts as a value in the third
pass but not in the last. Put together, they say of a body alone:

* `Schema.Accepts` — when it makes a document;
* `Schema.Prepares` — which document that is, its fields in their order;
* `Schema.Refuses` — why it is refused otherwise, by what is met first;
* `Schema.newDocument_decides` — that the passes do just this, for every schema.

What a required field holds after the third pass can be told from the body: its own value, or the
one that the field starts with, because stored values are null or the empty text only if they were
sent so (`Schema.isBlank_of_storesField`).
-/

namespace DocumentApi

namespace Fields

variable {α : Type} {key : String}

/-- Leaving out fields of other names makes no difference to a value. -/
theorem get?_filter (keep : String → Bool) (h : keep key = true) (fields : Fields α) :
    get? (fields.filter fun field => keep field.1) key = get? fields key := by
  induction fields with
  | nil => rfl
  | cons field rest ih =>
    obtain ⟨name, value⟩ := field
    rw [List.filter_cons]
    by_cases hname : keep name = true
    · rw [if_pos hname, get?_cons, get?_cons, ih]
    · have hne : name ≠ key := fun heq => hname (heq ▸ h)
      rw [if_neg hname, get?_cons, if_neg hne, ih]

end Fields

namespace Schema

variable {schema : Schema} {body : Fields Json} {fresh : ObjectId}

/-! ### Filling in -/

theorem keys_defaults (schema : Schema) :
    Fields.keys schema.defaults = (schema.fields.filter (·.initial.isSome)).map (·.name) := by
  unfold defaults
  induction schema.fields with
  | nil => rfl
  | cons field rest ih =>
    cases hinitial : field.initial with
    | none =>
      rw [List.filterMap_cons, hinitial, List.filter_cons_of_neg (by simp [hinitial])]
      exact ih
    | some value =>
      rw [List.filterMap_cons, hinitial, List.filter_cons_of_pos (by simp [hinitial])]
      exact congrArg (field.name :: ·) ih

/-- A declared field starts with the value that its only declaration gives it. -/
theorem get?_defaults (h : schema.DistinctNames) {field : Field} (hfield : field ∈ schema.fields) :
    Fields.get? schema.defaults field.name = field.initial := by
  cases hinitial : field.initial with
  | some value =>
    have hnodup : (Fields.keys schema.defaults).Nodup := by
      rw [keys_defaults]
      -- Distinct declarations stay distinct when those without a value are left out.
      exact h.sublist (List.filter_sublist.map _)
    refine Fields.get?_eq_some_of_mem hnodup (List.mem_filterMap.mpr ⟨field, hfield, ?_⟩)
    rw [hinitial, Option.map_some]
  | none =>
    rw [Fields.get?_eq_none_iff, keys_defaults]
    -- A default of this name would be that of a declaration with a value.
    intro hmem
    obtain ⟨other, hother, hname⟩ := List.mem_map.mp hmem
    obtain ⟨hdeclared, hsome⟩ := List.mem_filter.mp hother
    -- A declaration of the same name is the same declaration.
    obtain rfl : other = field := List.inj_on_of_nodup_map h hdeclared hfield hname
    rw [hinitial] at hsome
    cases hsome

/-- **A declared field** of a filled document has its value, or the one that it starts with. -/
theorem get?_fillFields_of_mem (h : schema.DistinctNames) (document : Document) {field : Field}
    (hfield : field ∈ schema.fields) :
    Fields.get? (schema.fillFields document) field.name
      = (Fields.get? document field.name).or field.initial := by
  rw [fillFields_eq h, Fields.get?_append]
  cases hvalue : Fields.get? document field.name with
  -- What is there already is not filled in.
  | some value => rw [Option.some_or, Option.some_or]
  | none =>
    -- The field is absent, so that it is among those that are filled in.
    have habsent : (!Fields.contains document field.name) = true := by
      rw [Fields.contains, hvalue]
      rfl
    have hfilter := Fields.get?_filter (fun name => !Fields.contains document name) habsent
      schema.defaults
    rw [Option.none_or, Option.none_or, hfilter, get?_defaults h hfield]

/-! ### Fields that are stored -/

section Stored

variable {sent : Fields Json} {stored : Fields Bson}

theorem keys_of_stores (h : List.Forall₂
      (fun sent stored => stored.1 = sent.1 ∧ schema.StoresField sent stored.2) sent stored) :
    Fields.keys stored = Fields.keys sent := by
  induction h with
  | nil => rfl
  -- By induction along both lists: the names agree pair by pair.
  | @cons first result _ _ hfirst _ ih =>
    change result.1 :: Fields.keys _ = first.1 :: Fields.keys _
    rw [hfirst.1, ih]

/-- A name leads to a field of the body and to what it is stored as, or to neither. -/
theorem get?_of_stores (h : List.Forall₂
      (fun sent stored => stored.1 = sent.1 ∧ schema.StoresField sent stored.2) sent stored)
    (name : String) :
    (Fields.get? sent name = none ∧ Fields.get? stored name = none) ∨
      ∃ value result, Fields.get? sent name = some value ∧ Fields.get? stored name = some result ∧
        schema.StoresField (name, value) result := by
  induction h with
  | nil => exact Or.inl ⟨rfl, rfl⟩
  -- Both searches stop at the first pair or go on to the rest together.
  | @cons first result _ _ hfirst _ ih =>
    obtain ⟨_, value⟩ := first
    obtain ⟨key, image⟩ := result
    obtain ⟨rfl, hstores⟩ := hfirst
    rw [Fields.get?_cons, Fields.get?_cons]
    by_cases hname : key = name
    · subst hname
      exact Or.inr ⟨value, image, if_pos rfl, if_pos rfl, hstores⟩
    · rw [if_neg hname, if_neg hname]
      exact ih

end Stored

/-! ### What is told from a body -/

/-- Whether a declared field gets the value that it starts with, because the body does not have it.
The identifier is always there. -/
def isFilled (body : Fields Json) (field : Field) : Bool :=
  field.initial.isSome && field.name ≠ idField && !Fields.contains body field.name

/-- Whether a declared field of the document for a body holds nothing, null or the empty text: its
own value, or else the one that it starts with. The identifier never does. -/
def isLeftBlank (body : Fields Json) (field : Field) : Bool :=
  field.name ≠ idField &&
    match Fields.get? body field.name with
    | some value => isSentBlank value
    | none => isBlank field.initial

/-- The required fields that a body leaves blank, in the order of their declarations. -/
def leftBlank (schema : Schema) (body : Fields Json) : List String :=
  (schema.fields.filter fun field => field.required && isLeftBlank body field).map (·.name)

/-- When a body makes a document: its identifier and all other fields may have their values, and no
required field is left blank. -/
structure Accepts (schema : Schema) (body : Fields Json) : Prop where
  identifier : AcceptsIdentifier body
  fields : ∀ field ∈ otherFields body, schema.AcceptsField field
  required : ∀ field ∈ schema.fields, field.required = true → isLeftBlank body field = false

/-- The document that a body makes: the identifier, the other fields of the body in their order, and
the fields that are filled in, in the order of their declarations. -/
structure Prepares (schema : Schema) (fresh : ObjectId) (body : Fields Json) (document : Document) :
    Prop where
  keys : Fields.keys document
    = idField :: Fields.keys (otherFields body)
      ++ (schema.fields.filter (isFilled body)).map (·.name)
  identifier : ∃ id, Identifies fresh body id ∧ Fields.get? document idField = some (.objectId id)
  own : ∀ field ∈ otherFields body, ∃ stored,
    schema.StoresField field stored ∧ Fields.get? document field.1 = some stored
  filled : ∀ field ∈ schema.fields, isFilled body field = true →
    Fields.get? document field.name = field.initial

/-- Why a body is refused: for its identifier, or else for the first other field that may not have
its value, or else for all required fields that it leaves blank. -/
inductive Refuses (schema : Schema) (body : Fields Json) : BodyError → Prop
  | identifier {value : Json} (hvalue : Fields.get? body idField = some value)
      (h : ¬ WritesReference value) : Refuses schema body (.notAnId idField (shown value))
  | field {before after : Fields Json} {field : String × Json} {failure : BodyError}
      (hid : AcceptsIdentifier body) (hbody : otherFields body = before ++ field :: after)
      (hbefore : ∀ earlier ∈ before, schema.AcceptsField earlier)
      (h : schema.RefusesField field.1 field.2 failure) : Refuses schema body failure
  | required (hid : AcceptsIdentifier body)
      (hfields : ∀ field ∈ otherFields body, schema.AcceptsField field)
      (h : schema.leftBlank body ≠ []) : Refuses schema body (.blank (schema.leftBlank body))

/-! ### New documents -/

theorem get?_otherFields {name : String} (h : name ≠ idField) :
    Fields.get? (otherFields body) name = Fields.get? body name :=
  Fields.get?_filter (· ≠ idField) (decide_eq_true h) body

/-- What the third pass finds: the identifier and the other fields of the body, as they are
stored. -/
structure Stores (schema : Schema) (fresh : ObjectId) (body : Fields Json) (id : ObjectId)
    (stored : Fields Bson) : Prop where
  identifies : Identifies fresh body id
  fields : List.Forall₂ (fun sent stored => stored.1 = sent.1 ∧ schema.StoresField sent stored.2)
    (otherFields body) stored

section Stores

variable {id : ObjectId} {stored : Fields Bson}

theorem Stores.nodup_keys (h : schema.Stores fresh body id stored)
    (hbody : (Fields.keys body).Nodup) :
    (Fields.keys ((idField, Bson.objectId id) :: stored)).Nodup := by
  have hothers : Fields.keys (otherFields body) = (Fields.keys body).filter (· ≠ idField) := by
    unfold otherFields Fields.keys
    rw [List.filter_map]
    rfl
  -- The identifier is stored first, and the other fields of the body are not called so.
  rw [Fields.keys_cons, keys_of_stores h.fields, hothers, List.nodup_cons]
  exact ⟨by simp, hbody.filter _⟩

/-- A field of the third pass is the identifier or one of the body. -/
theorem Stores.contains_eq (h : schema.Stores fresh body id stored) (name : String) :
    Fields.contains ((idField, Bson.objectId id) :: stored) name
      = (decide (name = idField) || Fields.contains body name) := by
  unfold Fields.contains
  rw [Fields.get?_cons]
  by_cases hname : name = idField
  · rw [if_pos hname.symm, decide_eq_true hname]
    rfl
  · rw [if_neg (Ne.symm hname), decide_eq_false hname, Bool.false_or, ← get?_otherFields hname]
    rcases get?_of_stores h.fields name with
      ⟨hsent, hstored⟩ | ⟨value, result, hsent, hstored, -⟩
    · -- Neither has the field, or both have it.
      rw [hsent, hstored]
      rfl
    · rw [hsent, hstored]
      rfl

/-- **A declared field** of the document is blank if the body leaves it blank. -/
theorem Stores.isBlank_fillFields (h : schema.Stores fresh body id stored)
    (hnames : schema.DistinctNames) {field : Field} (hfield : field ∈ schema.fields) :
    isBlank (Fields.get? (schema.fillFields ((idField, .objectId id) :: stored)) field.name)
      = isLeftBlank body field := by
  rw [get?_fillFields_of_mem hnames _ hfield, Fields.get?_cons]
  unfold isLeftBlank
  -- The identifier is not blank, and no other field is stored under its name.
  by_cases hname : field.name = idField
  · rw [if_pos hname.symm, hname]
    rfl
  · rw [if_neg (Ne.symm hname), ← get?_otherFields hname, decide_eq_true hname, Bool.true_and]
    rcases get?_of_stores h.fields field.name with
      ⟨hsent, hstored⟩ | ⟨value, result, hsent, hstored, hstores⟩
    · -- The body does not have the field, so that its first value decides.
      rw [hsent, hstored, Option.none_or]
    · -- The field is in the body, and what it is stored as is blank exactly if it was sent blank.
      rw [hsent, hstored, Option.some_or]
      exact isBlank_of_storesField hstores

theorem Stores.newDocument_eq (h : schema.Stores fresh body id stored)
    (hnames : schema.DistinctNames) (hbody : (Fields.keys body).Nodup) :
    schema.newDocument fresh body
      = if schema.leftBlank body = [] then
          .ok (schema.fillFields ((idField, .objectId id) :: stored))
        else .error (.blank (schema.leftBlank body)) := by
  -- What the last pass finds blank can be told from the body.
  have hblank : schema.blankFields (schema.fillFields ((idField, .objectId id) :: stored))
      = schema.leftBlank body := by
    unfold blankFields leftBlank
    congr 1
    refine List.filter_congr fun field hfield => ?_
    rw [h.isBlank_fillFields hnames hfield]
  unfold newDocument
  -- The first two passes succeed by assumption; only the last one is left.
  rw [identifier_eq_ok_iff.mpr h.identifies, readFields_eq_ok_iff.mpr h.fields]
  simp only [bind, Except.bind]
  rw [Fields.ofPairs_of_nodup (h.nodup_keys hbody), hblank]
  cases schema.leftBlank body <;> rfl

/-- The names of what is filled in: those of the declarations with a value that the body does not
have. -/
theorem Stores.keys_filled (h : schema.Stores fresh body id stored) :
    Fields.keys (schema.defaults.filter fun field =>
        !Fields.contains ((idField, Bson.objectId id) :: stored) field.1)
      = (schema.fields.filter (isFilled body)).map (·.name) := by
  calc Fields.keys (schema.defaults.filter fun field =>
        !Fields.contains ((idField, Bson.objectId id) :: stored) field.1)
      = (Fields.keys schema.defaults).filter fun name =>
          !Fields.contains ((idField, Bson.objectId id) :: stored) name := by
        unfold Fields.keys
        rw [List.filter_map]
        rfl
    _ = (schema.fields.filter (isFilled body)).map (·.name) := by
        rw [keys_defaults, List.filter_map, List.filter_filter]
        congr 1
        -- For one declaration: it has a value, it is not the identifier, and the body lacks it.
        refine List.filter_congr fun field _ => ?_
        rw [Function.comp_apply, h.contains_eq, isFilled, Bool.not_or, ← decide_not,
          Bool.and_comm, Bool.and_assoc]

/-- What is filled in is absent from the body and from what is stored of it. -/
theorem Stores.get?_of_isFilled (h : schema.Stores fresh body id stored) {field : Field}
    (hfilled : isFilled body field = true) :
    Fields.get? ((idField, Bson.objectId id) :: stored) field.name = none := by
  unfold isFilled at hfilled
  rw [Bool.and_eq_true, Bool.and_eq_true, decide_eq_true_eq, Bool.not_eq_true'] at hfilled
  obtain ⟨⟨-, hname⟩, hbody⟩ := hfilled
  have habsent : Fields.contains ((idField, Bson.objectId id) :: stored) field.name = false := by
    rw [h.contains_eq, decide_eq_false hname, hbody]
    rfl
  exact Option.isNone_iff_eq_none.mp (Option.isSome_eq_false_iff.mp habsent)

/-- The other fields of the body are stored under their names. -/
theorem Stores.exists_get?_of_mem (h : schema.Stores fresh body id stored)
    (hbody : (Fields.keys body).Nodup) {field : String × Json} (hfield : field ∈ otherFields body) :
    ∃ result, schema.StoresField field result ∧
      Fields.get? ((idField, Bson.objectId id) :: stored) field.1 = some result := by
  have hnodup : (Fields.keys (otherFields body)).Nodup := by
    have hall := h.nodup_keys hbody
    rw [Fields.keys_cons, keys_of_stores h.fields] at hall
    exact (List.nodup_cons.mp hall).2
  -- The field is the one that its name leads to.
  have hsent := Fields.get?_eq_some_of_mem hnodup hfield
  have hname : field.1 ≠ idField := of_decide_eq_true (List.mem_filter.mp hfield).2
  rcases get?_of_stores h.fields field.1 with
    ⟨hnone, -⟩ | ⟨value, result, hvalue, hstored, hstores⟩
  · -- The body has the field, so that it has been stored.
    rw [hsent] at hnone
    cases hnone
  · obtain rfl : field.2 = value := Option.some.inj (hsent.symm.trans hvalue)
    refine ⟨result, hstores, ?_⟩
    rw [Fields.get?_cons, if_neg (Ne.symm hname), hstored]

/-- **What is prepared** from the parts. -/
theorem Stores.prepares (h : schema.Stores fresh body id stored) (hnames : schema.DistinctNames)
    (hbody : (Fields.keys body).Nodup) :
    schema.Prepares fresh body (schema.fillFields ((idField, .objectId id) :: stored)) where
  keys := by
    -- Filling puts the names of what is filled in behind those that are there.
    rw [fillFields_eq hnames, Fields.keys_append, h.keys_filled, Fields.keys_cons,
      keys_of_stores h.fields]
  identifier := by
    -- The identifier stands in front, where no default can replace it.
    have hidentifier : Fields.get? ((idField, Bson.objectId id) :: stored) idField
        = some (.objectId id) := if_pos rfl
    exact ⟨id, h.identifies, get?_fillFields hidentifier⟩
  own field hfield := by
    obtain ⟨result, hstores, hstored⟩ := h.exists_get?_of_mem hbody hfield
    exact ⟨result, hstores, get?_fillFields hstored⟩
  filled field hfield hfilled := by
    rw [get?_fillFields_of_mem hnames _ hfield, h.get?_of_isFilled hfilled, Option.none_or]

end Stores

/-! ### Bodies that are taken and bodies that are refused -/

theorem leftBlank_eq_nil_iff :
    schema.leftBlank body = []
      ↔ ∀ field ∈ schema.fields, field.required = true → isLeftBlank body field = false := by
  unfold leftBlank
  rw [List.map_eq_nil_iff, List.filter_eq_nil_iff]
  -- Both sides say for one field that it is not required and blank.
  refine forall_congr' fun field => imp_congr_right fun _ => ?_
  rw [Bool.and_eq_true, not_and, Bool.not_eq_true]

/-- The identifier and the fields of a body that may have their values are stored. -/
theorem exists_stores (hid : AcceptsIdentifier body)
    (hfields : ∀ field ∈ otherFields body, schema.AcceptsField field) (fresh : ObjectId) :
    ∃ id stored, schema.Stores fresh body id stored := by
  obtain ⟨id, hidentifies⟩ := (acceptsIdentifier_iff fresh).mp hid
  -- Every other field has a stored form of its own; together they make the list.
  have heach : ∀ sent ∈ otherFields body, ∃ stored : String × Bson,
      stored.1 = sent.1 ∧ schema.StoresField sent stored.2 := by
    intro sent hsent
    obtain ⟨stored, hstored⟩ := acceptsField_iff.mp (hfields sent hsent)
    exact ⟨(sent.1, stored), rfl, hstored⟩
  obtain ⟨stored, hstored⟩ := exists_forall₂_iff.mpr heach
  exact ⟨id, stored, hidentifies, hstored⟩

/-- A stored body is one that may have its values. -/
theorem Stores.acceptsFields {id : ObjectId} {stored : Fields Bson}
    (h : schema.Stores fresh body id stored) :
    AcceptsIdentifier body ∧ ∀ field ∈ otherFields body, schema.AcceptsField field := by
  -- The list of stored fields gives a stored form for each field that was sent.
  refine ⟨(acceptsIdentifier_iff fresh).mpr ⟨id, h.identifies⟩, fun field hfield => ?_⟩
  obtain ⟨result, -, hresult⟩ := exists_forall₂_iff.mp ⟨stored, h.fields⟩ field hfield
  exact acceptsField_iff.mpr ⟨result.2, hresult⟩

/-- What a document is prepared from has been stored. -/
theorem exists_stores_of_newDocument {document : Document}
    (h : schema.newDocument fresh body = .ok document) :
    ∃ id stored, schema.Stores fresh body id stored := by
  obtain ⟨id, stored, hid, hstored, -⟩ := newDocument_eq_ok h
  exact ⟨id, stored, identifier_eq_ok_iff.mp hid, readFields_eq_ok_iff.mp hstored⟩

theorem exists_newDocument_iff (hnames : schema.DistinctNames) (hbody : (Fields.keys body).Nodup) :
    (∃ document, schema.newDocument fresh body = .ok document) ↔ schema.Accepts body := by
  constructor
  · rintro ⟨document, h⟩
    obtain ⟨id, stored, hstores⟩ := exists_stores_of_newDocument h
    -- With all parts stored, only the required fields can still refuse the body.
    rw [hstores.newDocument_eq hnames hbody] at h
    split at h
    · next hnone =>
      exact ⟨hstores.acceptsFields.1, hstores.acceptsFields.2, leftBlank_eq_nil_iff.mp hnone⟩
    · cases h
  · intro h
    -- What the body needs is there, so that the third pass finds nothing to refuse.
    obtain ⟨id, stored, hstores⟩ := exists_stores h.identifier h.fields fresh
    rw [hstores.newDocument_eq hnames hbody, if_pos (leftBlank_eq_nil_iff.mpr h.required)]
    exact ⟨_, rfl⟩

/-- The first pass that fails gives the reason of the refusal. -/
theorem refuses_of_newDocument (hnames : schema.DistinctNames) (hbody : (Fields.keys body).Nodup)
    {failure : BodyError} (h : schema.newDocument fresh body = .error failure) :
    schema.Refuses body failure := by
  cases hid : identifier fresh body with
  | error refusal =>
    -- The identifier is read first, and its failure is that of the body.
    unfold newDocument at h
    rw [hid] at h
    obtain rfl := Except.error.inj h
    obtain ⟨value, hvalue, hnot, rfl⟩ := identifier_eq_error_iff.mp hid
    exact .identifier hvalue hnot
  | ok id =>
    have hidentifies := identifier_eq_ok_iff.mp hid
    have haccepts := (acceptsIdentifier_iff fresh).mpr ⟨id, hidentifies⟩
    cases hfields : schema.readFields body with
    | error refusal =>
      -- Then the other fields are read, and the first failure among them counts.
      unfold newDocument at h
      rw [hid, hfields] at h
      obtain rfl := Except.error.inj h
      obtain ⟨before, field, after, hothers, hbefore, hrefuses⟩ :=
        readFields_eq_error_iff.mp hfields
      exact .field haccepts hothers hbefore hrefuses
    | ok stored =>
      have hstores : schema.Stores fresh body id stored :=
        ⟨hidentifies, readFields_eq_ok_iff.mp hfields⟩
      -- Both passes succeed, so that the failure is one of the last pass.
      rw [hstores.newDocument_eq hnames hbody] at h
      split at h
      · cases h
      · next hblank =>
        obtain rfl := Except.error.inj h
        exact .required haccepts hstores.acceptsFields.2 hblank

/-- Each reason for a refusal alone makes the pass fail that looks for it. -/
theorem newDocument_of_refuses (hnames : schema.DistinctNames) (hbody : (Fields.keys body).Nodup)
    {failure : BodyError} (h : schema.Refuses body failure) :
    schema.newDocument fresh body = .error failure := by
  obtain ⟨hvalue, hnot⟩ | ⟨hid, hothers, hbefore, hrefuses⟩ | ⟨hid, hfields, hblank⟩ := h
  · have hread : identifier fresh body = .error _ :=
      identifier_eq_error_iff.mpr ⟨_, hvalue, hnot, rfl⟩
    unfold newDocument
    rw [hread]
    rfl
  · obtain ⟨id, hidentifies⟩ := (acceptsIdentifier_iff fresh).mp hid
    -- The passes before this one succeed, since the identifier may have its value.
    have hread := readFields_eq_error_iff.mpr ⟨_, _, _, hothers, hbefore, hrefuses⟩
    unfold newDocument
    rw [identifier_eq_ok_iff.mpr hidentifies, hread]
    rfl
  · obtain ⟨id, stored, hstores⟩ := exists_stores hid hfields fresh
    rw [hstores.newDocument_eq hnames hbody, if_neg hblank]

/-- **Which bodies make a document.** For every schema and every object, preparing the object for
insertion succeeds if and only if its identifier is absent, null or a text of hexadecimal digits,
every other field may have its value, and no required field is left blank. What is made then is the
document that the schema declares. Otherwise the body is refused for what is met first: the
identifier, the first other field that may not have its value, or the required fields that are left
blank, which are all named in the order of their declarations. -/
theorem newDocument_decides (collection : String) (fields : List Field) (fresh : ObjectId)
    {body : Fields Json} (hbody : (Fields.keys body).Nodup) :
    ((∃ document, (ofFields collection fields).newDocument fresh body = .ok document)
        ↔ (ofFields collection fields).Accepts body) ∧
      (∀ document, (ofFields collection fields).newDocument fresh body = .ok document →
        (ofFields collection fields).Prepares fresh body document) ∧
      ∀ failure, (ofFields collection fields).newDocument fresh body = .error failure
        ↔ (ofFields collection fields).Refuses body failure := by
  have hnames := distinctNames_ofFields collection fields
  refine ⟨exists_newDocument_iff hnames hbody, fun document h => ?_,
    fun failure => ⟨refuses_of_newDocument hnames hbody, newDocument_of_refuses hnames hbody⟩⟩
  obtain ⟨id, stored, hstores⟩ := exists_stores_of_newDocument h
  -- A document that is made is made of the parts that the passes find.
  rw [hstores.newDocument_eq hnames hbody] at h
  split at h
  · obtain rfl := Except.ok.inj h
    exact hstores.prepares hnames hbody
  · cases h

/-- An order of some customer for some items. Its state starts as a text, which is required, and its
note starts as null. -/
def orderFields : List Field :=
  [{ name := "customer", required := true, target := some (ofFields "customers" []) },
    { name := "items", target := some (ofFields "items" []) },
    { name := "state", required := true, initial := some (.string "new") },
    { name := "note", initial := some .null }]

/-- The body of an order, with digits in both cases and null among its items. -/
def orderBody : Fields Json :=
  [("items", .arr [.str "00000000000000000000000B", .null]), ("count", .int 2),
    ("customer", .str "00000000000000000000000a")]

/-- The order is taken, although its state is left out, and refused without its customer. -/
theorem newDocument_decides_order :
    (Fields.keys orderBody).Nodup ∧ (ofFields "orders" orderFields).Accepts orderBody ∧
      (ofFields "orders" orderFields).Prepares (.ofNat 1) orderBody
        [("_id", .objectId (.ofNat 1)),
          ("items", .array [.objectId (.ofNat 11), .null]), ("count", .int64 2),
          ("customer", .objectId (.ofNat 10)), ("isActive", .bool true), ("state", .string "new"),
          ("note", .null)] ∧
      (ofFields "orders" orderFields).Refuses [("customer", .null)] (.blank ["customer"]) := by
  have hbody : (Fields.keys orderBody).Nodup := by decide
  have hblank : (Fields.keys [("customer", Json.null)]).Nodup := by decide
  obtain ⟨haccepts, hprepares, -⟩ := newDocument_decides "orders" orderFields (.ofNat 1) hbody
  obtain ⟨-, -, hrefuses⟩ := newDocument_decides "orders" orderFields (.ofNat 1) hblank
  exact ⟨hbody, haccepts.mp ⟨_, rfl⟩, hprepares _ rfl, (hrefuses _).mp rfl⟩

end Schema

end DocumentApi
