import DocumentApi.Proofs.Bson.PlainJson
import DocumentApi.Proofs.ObjectId.LetterCase
import DocumentApi.Schema.Body

/-!
# Where values are shown

A response shows a document with everything that stands inside it, at any depth. A **place** is a
list of steps that lead inside, each to the value of a field or to an item of an array. Stored
values and JSON values are entered in the same way, so a place of one can be asked for in the other.

* `Bson.enters_normalize_iff` — one step: what it leads to in the shown value is the shown form of
  what it leads to in the stored one, and the step is not the one to the version key;
* `leadsTo_iff_of_enters_iff` — from one step to whole places, for any two kinds of values;
* `Bson.shownAs_normalize` — what stands at a place, apart from what stands inside it, is shown as
  `Bson.ShownAs` says;
* `Document.normalize_places` — the three together: a place of the document is one of its shown form
  if and only if it does not go through a version key, and what stands there is shown as it should
  be.

A place is a relation and not a look-up, so nothing depends on the names of a document being
distinct: a field that a look-up would not find has a place like any other.
-/

namespace DocumentApi

/-! ### Places -/

/-- A step from a value to one that stands inside it. -/
inductive Step where
  /-- To the value of a field with this name. -/
  | field (name : String)
  /-- To the item at this position of an array. -/
  | item (index : Nat)

section Places

variable {α β : Type}

/-- Whether a place leads from one value to another one, where `enters` says of each step what it
leads to. The empty place leads nowhere else. -/
def LeadsTo (enters : Step → α → α → Prop) : List Step → α → α → Prop
  | [], outer, inner => outer = inner
  | step :: rest, outer, inner =>
    ∃ between, enters step outer between ∧ LeadsTo enters rest between inner

/-- **From steps to places.** If a step leads from an image exactly to the images of what it leads
to, as long as it is allowed, then so does a place all of whose steps are allowed. -/
theorem leadsTo_iff_of_enters_iff {image : α → β} {allowed : Step → Prop}
    {enters : Step → α → α → Prop} {entersImage : Step → β → β → Prop}
    (hstep : ∀ step outer shown, entersImage step (image outer) shown ↔
      allowed step ∧ ∃ inner, enters step outer inner ∧ image inner = shown)
    {place : List Step} {outer : α} {shown : β} :
    LeadsTo entersImage place (image outer) shown ↔
      (∀ step ∈ place, allowed step) ∧
        ∃ inner, LeadsTo enters place outer inner ∧ image inner = shown := by
  -- The induction is on the place, so that the value to start from is any that a step leads to.
  induction place generalizing outer with
  | nil =>
    have hnone : ∀ step ∈ ([] : List Step), allowed step := fun _ hstep =>
      absurd hstep List.not_mem_nil
    constructor
    · intro h
      exact ⟨hnone, outer, rfl, h⟩
    · rintro ⟨-, inner, rfl, h⟩
      exact h
  | cons step rest ih =>
    constructor
    · rintro ⟨between, henters, hrest⟩
      obtain ⟨hallowed, stored, hstored, rfl⟩ := (hstep step outer between).mp henters
      obtain ⟨hothers, inner, hinner, hshown⟩ := ih.mp hrest
      exact ⟨List.forall_mem_cons.mpr ⟨hallowed, hothers⟩, inner, ⟨stored, hstored, hinner⟩, hshown⟩
    · rintro ⟨hallowed, inner, ⟨stored, hstored, hinner⟩, hshown⟩
      obtain ⟨hfirst, hothers⟩ := List.forall_mem_cons.mp hallowed
      have henters : entersImage step (image outer) (image stored) :=
        (hstep step outer (image stored)).mpr ⟨hfirst, stored, hstored, rfl⟩
      exact ⟨image stored, henters, ih.mpr ⟨hothers, inner, hinner, hshown⟩⟩

end Places

namespace Bson

/-- What a step leads to in a stored value. -/
def Enters : Step → Bson → Bson → Prop
  | .field name, .document fields, inner => (name, inner) ∈ fields
  | .item index, .array items, inner => items[index]? = some inner
  | _, _, _ => False

/-- Whether a value stands at a place inside a stored value. -/
def HasAt (value : Bson) (place : List Step) (inner : Bson) : Prop :=
  LeadsTo Enters place value inner

/-- Whether a stored value has no places inside it. -/
def IsAtom : Bson → Prop
  | .document _ | .array _ => False
  | _ => True

theorem IsAtom.not_enters {value inner : Bson} (h : value.IsAtom) (step : Step) :
    ¬ Enters step value inner := by
  intro henters
  -- Neither a field nor an item can be entered of a value of any other kind.
  cases value with
  | document fields => exact h
  | array items => exact h
  | _ => cases step <;> exact henters

end Bson

namespace Json

/-- What a step leads to in a JSON value. -/
def Enters : Step → Json → Json → Prop
  | .field name, .obj fields, inner => (name, inner) ∈ fields
  | .item index, .arr items, inner => items[index]? = some inner
  | _, _, _ => False

/-- Whether a value stands at a place inside a JSON value. -/
def HasAt (value : Json) (place : List Step) (inner : Json) : Prop :=
  LeadsTo Enters place value inner

/-- Whether a JSON value has no places inside it. -/
def IsAtom : Json → Prop
  | .obj _ | .arr _ => False
  | _ => True

theorem IsAtom.not_enters {value inner : Json} (h : value.IsAtom) (step : Step) :
    ¬ Enters step value inner := by
  -- As with stored values.
  intro henters
  cases value with
  | obj fields => exact h
  | arr items => exact h
  | _ => cases step <;> exact henters

end Json

namespace Bson

/-! ### Shown fields and items -/

/-- **The names of an object** are those of the document, in the same order, without the version
key. -/
theorem keys_normalizeFields (fields : Fields Bson) :
    Fields.keys (normalizeFields fields)
      = (Fields.keys fields).filter (· ≠ Schema.versionField) := by
  rw [normalizeFields_eq]
  unfold Fields.keys
  -- Names are kept when values are shown.
  rw [List.map_map, List.filter_map]
  rfl

theorem mem_normalizeFields {fields : Fields Bson} {name : String} {shown : Json} :
    (name, shown) ∈ normalizeFields fields ↔
      name ≠ Schema.versionField ∧ ∃ inner, (name, inner) ∈ fields ∧ inner.normalize = shown := by
  rw [normalizeFields_eq, List.mem_map]
  -- A shown field comes from a field with the same name, which is not that of the version key.
  constructor
  · rintro ⟨⟨key, inner⟩, hmem, heq⟩
    obtain ⟨hfield, hkey⟩ := List.mem_filter.mp hmem
    obtain ⟨rfl, hshown⟩ := Prod.mk.inj heq
    exact ⟨of_decide_eq_true hkey, inner, hfield, hshown⟩
  · rintro ⟨hname, inner, hfield, rfl⟩
    exact ⟨(name, inner), List.mem_filter.mpr ⟨hfield, decide_eq_true hname⟩, rfl⟩

theorem normalizeItems_eq (items : List Bson) : normalizeItems items = items.map normalize := by
  induction items with
  | nil => rfl
  | cons item rest ih => rw [normalizeItems, ih, List.map_cons]

/-- A value that nothing stands inside is shown as one that nothing stands inside: even the types
that JSON has no form for are shown by a text. -/
-- Finite doubles are numbers, and others are null; no other value depends on its content.
theorem IsAtom.normalize {value : Bson} (h : value.IsAtom) : value.normalize.IsAtom := by
  cases value with
  | document fields => exact h.elim
  | array items => exact h.elim
  | double x =>
    rw [Bson.normalize, Json.ofBinary64]
    split <;> exact trivial
  | _ => exact trivial

/-! ### Steps into shown values -/

/-- **One step.** A step into a shown value is not to the version key, and it leads to the shown
forms of what it leads to in the stored value. -/
theorem enters_normalize_iff (step : Step) (outer : Bson) (shown : Json) :
    Json.Enters step outer.normalize shown ↔
      step ≠ .field Schema.versionField ∧
        ∃ inner, Enters step outer inner ∧ inner.normalize = shown := by
  have hnone : (∀ inner, ¬ Enters step outer inner) →
      ¬ (step ≠ .field Schema.versionField ∧
        ∃ inner, Enters step outer inner ∧ inner.normalize = shown) := by
    rintro hnot ⟨-, inner, henters, -⟩
    exact hnot inner henters
  -- Only documents and arrays can be entered, each by one of the two kinds of steps.
  by_cases hatom : outer.IsAtom
  · exact iff_of_false (hatom.normalize.not_enters step) (hnone fun _ => hatom.not_enters step)
  · -- Fields lead into documents, and items into arrays.
    cases outer with
    | document fields =>
      rw [normalize]
      cases step with
      | field name =>
        have hname : (Step.field name ≠ .field Schema.versionField) ↔
            name ≠ Schema.versionField := by rw [Ne, Step.field.injEq]
        rw [hname]
        exact mem_normalizeFields
      | item index => exact iff_of_false id (hnone fun _ => id)
    | array items =>
      rw [normalize]
      cases step with
      | field name => exact iff_of_false id (hnone fun _ => id)
      | item index =>
        have hstep : Step.item index ≠ .field Schema.versionField := by
          intro heq
          cases heq
        rw [and_iff_right hstep]
        change (normalizeItems items)[index]? = some shown ↔
          ∃ inner, items[index]? = some inner ∧ inner.normalize = shown
        rw [normalizeItems_eq, List.getElem?_map, Option.map_eq_some_iff]
    | _ => exact absurd trivial hatom

/-- The places inside a shown value are those of the stored one that do not go through a version
key. -/
theorem hasAt_normalize_iff {value : Bson} {place : List Step} {shown : Json} :
    value.normalize.HasAt place shown ↔
      .field Schema.versionField ∉ place ∧
        ∃ inner, value.HasAt place inner ∧ inner.normalize = shown := by
  -- The step to the version key is the one that is not allowed.
  have hallowed : (∀ step ∈ place, step ≠ .field Schema.versionField) ↔
      .field Schema.versionField ∉ place :=
    ⟨fun h hmem => h _ hmem rfl, fun h step hmem heq => h (heq ▸ hmem)⟩
  rw [← hallowed]
  exact leadsTo_iff_of_enters_iff enters_normalize_iff

/-! ### What stands at a place -/

/-- How a stored value is shown, apart from what stands inside it. -/
inductive ShownAs : Bson → Json → Prop
  /-- A document is an object with the same names in the same order, without the version key. -/
  | document {fields : Fields Bson} {shown : Fields Json}
      (hnames : Fields.keys shown = (Fields.keys fields).filter (· ≠ Schema.versionField)) :
      ShownAs (.document fields) (.obj shown)
  /-- An array is an array of the same length. -/
  | array {items : List Bson} {shown : List Json} (hlength : shown.length = items.length) :
      ShownAs (.array items) (.arr shown)
  /-- An identifier is a text of twenty-four lower-case digits, which is read as it. -/
  | identifier {id : ObjectId} {text : String} (hlower : ObjectId.IsLowerHex text)
      (hread : ObjectId.read text = .ok id) : ShownAs (.objectId id) (.str text)
  /-- Any other value is neither an object nor an array. -/
  | atom {value : Bson} {shown : Json} (hvalue : value.IsAtom) (hid : ∀ id, value ≠ .objectId id)
      (hshown : shown.IsAtom) : ShownAs value shown

/-- No object is shown with a version key. -/
theorem ShownAs.versionField_notMem {value : Bson} {shown : Fields Json}
    (h : value.ShownAs (.obj shown)) : Schema.versionField ∉ Fields.keys shown := by
  -- The names of an object are those that the version key is left out of.
  cases h with
  | document hnames =>
    rw [hnames]
    intro hmem
    exact of_decide_eq_true (List.mem_filter.mp hmem).2 rfl
  | atom _ _ hshown => exact hshown.elim

-- By the kinds of values; identifiers have a form of their own.
theorem shownAs_normalize (value : Bson) : value.ShownAs value.normalize := by
  cases value with
  | document fields =>
    rw [normalize]
    exact .document (keys_normalizeFields fields)
  | array items =>
    rw [normalize, normalizeItems_eq]
    exact .array (List.length_map normalize)
  | objectId id =>
    have hread : ObjectId.read id.toHex = .ok id := by
      unfold ObjectId.read
      rw [ObjectId.ofHex?_toHex]
    rw [normalize]
    exact .identifier (ObjectId.isLowerHex_toHex id) hread
  | _ =>
    refine .atom trivial ?_ (IsAtom.normalize trivial)
    intro id heq
    cases heq

end Bson

namespace Document

/-- **What a document is shown as.** The shown form of any document is an object. No object at any
place inside it has a version key. Every place inside it is one of the document, which does not go
through a version key; what it leads to is the shown form of what it leads to in the document, and
that is as it should be: documents have their names in their order but for the version key, arrays
have their length, identifiers are the lower-case digits that are read as them. And nothing else is
left out: every place of the document that does not go through a version key is one of the shown
form. -/
theorem normalize_places (document : Document) :
    (∃ fields, document.normalize = .obj fields) ∧
    (∀ place fields, document.normalize.HasAt place (.obj fields) →
      Schema.versionField ∉ Fields.keys fields) ∧
    (∀ place shown, document.normalize.HasAt place shown →
      .field Schema.versionField ∉ place ∧
        ∃ value, (Bson.document document).HasAt place value ∧
          value.normalize = shown ∧ value.ShownAs shown) ∧
    (∀ place value, (Bson.document document).HasAt place value →
      .field Schema.versionField ∉ place →
        document.normalize.HasAt place value.normalize ∧ value.ShownAs value.normalize) := by
  have hplaces : ∀ place shown, document.normalize.HasAt place shown →
      .field Schema.versionField ∉ place ∧
        ∃ value, (Bson.document document).HasAt place value ∧
          value.normalize = shown ∧ value.ShownAs shown := by
    -- Places are followed step by step, with the shown forms along them.
    intro place shown hshown
    have hstored : (Bson.document document).normalize.HasAt place shown := hshown
    obtain ⟨hplace, value, hvalue, rfl⟩ := Bson.hasAt_normalize_iff.mp hstored
    exact ⟨hplace, value, hvalue, rfl, value.shownAs_normalize⟩
  refine ⟨⟨Bson.normalizeFields document, rfl⟩, ?_, hplaces, ?_⟩
  · intro place fields hshown
    obtain ⟨-, value, -, -, hvalue⟩ := hplaces place (.obj fields) hshown
    exact hvalue.versionField_notMem
  · intro place value hvalue hplace
    have hshown : (Bson.document document).normalize.HasAt place value.normalize :=
      Bson.hasAt_normalize_iff.mpr ⟨hplace, value, hvalue, rfl⟩
    exact ⟨hshown, value.shownAs_normalize⟩

/-- The identifier of a child, in lower-case digits. -/
def childDigits : String :=
  "64b7f3a2c9e77a00000000ff"

/-- The identifier of a child. -/
def childId : ObjectId :=
  ⟨0x64b7f3a2c9e77a00000000ff, by decide⟩

/-- A child with a version key, behind which there is an identifier, and with a list of tags. -/
def child : Document :=
  [("_id", .objectId childId), ("__v", .document [("at", .objectId childId)]),
    ("tags", .array [.null, .objectId childId])]

/-- A document into which a child has been populated. -/
def household : Document :=
  [("__v", .int32 0), ("child", .document child)]

/-- The child is shown as an object without its version key, so nothing that stands behind the key
is shown; the tag is shown by the digits of the identifier. -/
theorem normalize_places_household :
    household.normalize.HasAt [.field "child"]
        (.obj [("_id", .str childDigits), ("tags", .arr [.null, .str childDigits])]) ∧
      Schema.versionField ∉ ["_id", "tags"] ∧
      (∃ fields, (Bson.document household).HasAt [.field "child"] (.document fields) ∧
        ["_id", "tags"] = (Fields.keys fields).filter (· ≠ Schema.versionField)) ∧
      (Bson.document household).HasAt [.field "child", .field "tags", .item 1] (.objectId childId) ∧
      ∃ text, household.normalize.HasAt [.field "child", .field "tags", .item 1] (.str text) ∧
        ObjectId.IsLowerHex text ∧ ObjectId.read text = .ok childId := by
  have hdigits : childId.toHex = childDigits := by decide +kernel
  obtain ⟨-, hversion, hplaces, hkept⟩ := normalize_places household
  have hchild : household.normalize.HasAt [.field "child"]
      (.obj [("_id", .str childDigits), ("tags", .arr [.null, .str childDigits])]) := by
    rw [← hdigits]
    exact ⟨_, List.mem_singleton.mpr rfl, rfl⟩
  have htag : (Bson.document household).HasAt [.field "child", .field "tags", .item 1]
      (.objectId childId) :=
    ⟨.document child, .tail _ (.head _), .array [.null, .objectId childId],
      .tail _ (.tail _ (.head _)), .objectId childId, rfl, rfl⟩
  refine ⟨hchild, hversion _ _ hchild, ?_, htag, ?_⟩
  · -- The child is shown as an object, so that it is a document.
    obtain ⟨-, value, hvalue, -, hshown⟩ := hplaces _ _ hchild
    cases hshown with
    | document hnames => exact ⟨_, hvalue, hnames⟩
    | atom _ _ hshown => exact hshown.elim
  · have hplace : Step.field Schema.versionField ∉
        [Step.field "child", Step.field "tags", Step.item 1] := by simp [Schema.versionField]
    -- The tag is shown by the digits of its identifier.
    obtain ⟨hat, hshown⟩ := hkept _ _ htag hplace
    have htext : (Bson.objectId childId).normalize = .str childId.toHex := by rw [Bson.normalize]
    rw [htext] at hat hshown
    cases hshown with
    | identifier hlower hread => exact ⟨_, hat, hlower, hread⟩
    | atom _ hid _ => exact absurd rfl (hid childId)

end Document

end DocumentApi
