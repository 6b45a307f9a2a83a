import DocumentApi.Bson.Equality
import DocumentApi.Document.Update
import DocumentApi.Proofs.Number.Integer
import Mathlib.Data.List.Perm.Subperm

/-!
# Well-formed values

The fields of a stored document have distinct names, at every depth. The types here keep fields in
lists, which may hold anything, so this is a property of its own:

* `Bson.same_symm` — on well-formed values it does not matter which of two values is compared with
  which;
* `Document.WellFormed.applyChanges` — changing well-formed documents by well-formed values keeps
  them well-formed.

Without distinct names equality is not symmetric: it looks every field of the first document up in
the second one, and compares numbers of fields to exclude further ones.
-/

namespace DocumentApi

namespace Bson

mutual

/-- Whether the names of fields are distinct at every depth of a value. -/
def WellFormed : Bson → Prop
  | .codeWithScope _ scope => (Fields.keys scope).Nodup ∧ WellFormedFields scope
  | .array items => WellFormedItems items
  | .document fields => (Fields.keys fields).Nodup ∧ WellFormedFields fields
  | _ => True

/-- Whether all items of a list are well-formed. -/
def WellFormedItems : List Bson → Prop
  | [] => True
  | item :: rest => WellFormed item ∧ WellFormedItems rest

/-- Whether the values of all fields are well-formed. -/
def WellFormedFields : List (String × Bson) → Prop
  | [] => True
  | (_, value) :: rest => WellFormed value ∧ WellFormedFields rest

end

theorem wellFormedFields_iff {fields : Fields Bson} :
    WellFormedFields fields ↔ ∀ field ∈ fields, field.2.WellFormed := by
  induction fields with
  | nil => simp [WellFormedFields]
  | cons field rest ih =>
    obtain ⟨name, value⟩ := field
    rw [WellFormedFields, ih, List.forall_mem_cons]

theorem WellFormedFields.get? {fields : Fields Bson} (h : WellFormedFields fields) {name : String}
    {value : Bson} (hvalue : Fields.get? fields name = some value) : value.WellFormed :=
  wellFormedFields_iff.mp h _ (Fields.mem_of_get?_eq_some hvalue)

/-! ### Equality is symmetric -/

/-- A document with as many fields as another one, all of whose names it has, has no other names. -/
private theorem keys_subset_of_length_eq {fields others : Fields Bson}
    (hnodup : (Fields.keys fields).Nodup) (hsubset : Fields.keys fields ⊆ Fields.keys others)
    (hlength : fields.length = others.length) : Fields.keys others ⊆ Fields.keys fields := by
  have hperm : (Fields.keys fields).Perm (Fields.keys others) := by
    -- The names of the first are part of those of the second, and there are as many of them.
    refine (List.subperm_of_subset hnodup hsubset).perm_of_length_le ?_
    simp [Fields.keys, hlength]
  exact hperm.symm.subset

/-- Equality of fields the other way round, if the second fields are found to be the first ones. -/
private theorem sameFields_of_forall {fields others : Fields Bson}
    (h : ∀ name value, (name, value) ∈ fields →
      ∃ value', Fields.get? others name = some value' ∧ same value value' = true) :
    sameFields fields others = true := by
  induction fields with
  | nil => rfl
  | cons field rest ih =>
    obtain ⟨name, value⟩ := field
    obtain ⟨value', hvalue', hsame⟩ := h name value List.mem_cons_self
    rw [sameFields, hvalue', Bool.and_eq_true]
    exact ⟨hsame, ih fun name value hmem => h name value (List.mem_cons_of_mem _ hmem)⟩

/-- The step at a document: both have the same names, each of them once, and so every field of the
second one is the one that a field of the first one was compared with. -/
private theorem sameFields_symm_of_get? {fields others : Fields Bson}
    (hnodup : (Fields.keys fields).Nodup) (hnodup' : (Fields.keys others).Nodup)
    (hlength : fields.length = others.length)
    (h : ∀ name value, (name, value) ∈ fields →
      ∃ value', Fields.get? others name = some value' ∧ same value' value = true) :
    sameFields others fields = true := by
  -- Each field was found in the second document under its name.
  have hsubset : Fields.keys fields ⊆ Fields.keys others := by
    intro name hname
    obtain ⟨⟨_, value⟩, hmem, rfl⟩ := List.mem_map.mp hname
    obtain ⟨value', hvalue', -⟩ := h _ value hmem
    exact Fields.mem_keys_of_mem (Fields.mem_of_get?_eq_some hvalue')
  -- A field of the second document has a name of the first one, whose field was compared with it.
  refine sameFields_of_forall fun name value' hmem' => ?_
  have hname := keys_subset_of_length_eq hnodup hsubset hlength (Fields.mem_keys_of_mem hmem')
  obtain ⟨⟨_, value⟩, hmem, rfl⟩ := List.mem_map.mp hname
  obtain ⟨found, hfound, hsame⟩ := h _ value hmem
  have heq : value' = found :=
    Option.some.inj ((Fields.get?_eq_some_of_mem hnodup' hmem').symm.trans hfound)
  -- The names are distinct, so this field is the only one that can have been found.
  exact ⟨value, Fields.get?_eq_some_of_mem hnodup hmem, heq ▸ hsame⟩

mutual

/-- **Equality is symmetric** on well-formed values. -/
theorem same_symm {a b : Bson} (ha : a.WellFormed) (hb : b.WellFormed) (h : same a b = true) :
    same b a = true := by
  -- By the ways of equality, of which all but a few compare the parts of two values alike.
  unfold same at h
  split at h
  -- Doubles are compared by their places in order.
  case h_6 a b =>
    rw [same]
    rw [Binary64.sameValue_comm]
    exact h
  -- Documents and scopes are compared field by field, in one direction.
  case h_16 a scope b scope' =>
    rw [WellFormed] at ha hb
    simp only [Bool.and_eq_true, beq_iff_eq] at h
    obtain ⟨⟨hcode, hlength⟩, hfields⟩ := h
    have hback := sameFields_symm_of_get? ha.1 hb.1 hlength
      (get?_of_sameFields ha.2 hb.2 hfields)
    rw [same, hback, hcode, hlength]
    simp
  -- Arrays are compared item by item.
  case h_20 items items' =>
    rw [WellFormed] at ha hb
    rw [same]
    exact sameItems_symm ha hb h
  case h_21 fields fields' =>
    rw [WellFormed] at ha hb
    simp only [Bool.and_eq_true, beq_iff_eq] at h
    have hback := sameFields_symm_of_get? ha.1 hb.1 h.1 (get?_of_sameFields ha.2 hb.2 h.2)
    rw [same, hback, h.1]
    simp
  case h_22 => cases h
  -- All other values are compared by the equality of their parts.
  all_goals
    simp only [beq_iff_eq, Bool.and_eq_true, decide_eq_true_eq] at h
    simp [same, h]

theorem sameItems_symm {items items' : List Bson} (ha : WellFormedItems items)
    (hb : WellFormedItems items') (h : sameItems items items' = true) :
    sameItems items' items = true := by
  match items, items' with
  | [], [] => rfl
  | a :: rest, b :: rest' =>
    rw [WellFormedItems] at ha hb
    rw [sameItems, Bool.and_eq_true] at h ⊢
    exact ⟨same_symm ha.1 hb.1 h.1, sameItems_symm ha.2 hb.2 h.2⟩

/-- What the fields of the first document were compared with, the other way round. -/
theorem get?_of_sameFields {fields others : List (String × Bson)} (ha : WellFormedFields fields)
    (hb : WellFormedFields others) (h : sameFields fields others = true) :
    ∀ name value, (name, value) ∈ fields →
      ∃ value', Fields.get? others name = some value' ∧ same value' value = true := by
  match fields with
  | [] => exact fun _ _ hmem => absurd hmem List.not_mem_nil
  | (name, value) :: rest =>
    rw [WellFormedFields] at ha
    rw [sameFields, Bool.and_eq_true] at h
    intro key found hmem
    -- A field is the one that was compared first, or one of the rest.
    rcases List.mem_cons.mp hmem with heq | hrest
    · obtain ⟨rfl, rfl⟩ := Prod.mk.inj heq
      cases hvalue' : Fields.get? others key with
      | none => simp [hvalue'] at h
      | some value' =>
        rw [hvalue'] at h
        exact ⟨value', rfl, same_symm ha.1 (hb.get? hvalue') h.1⟩
    · exact get?_of_sameFields ha.2 hb h.2 key found hrest

end

end Bson

/-! ### Changes -/

namespace Document

/-- Whether the names of the fields of a document are distinct at every depth. -/
def WellFormed (document : Document) : Prop :=
  Bson.WellFormed (.document document)

theorem wellFormed_iff {document : Document} :
    WellFormed document ↔
      -- Being distinct at the top and well-formed in every value is all that is asked of a
      -- document.
      (Fields.keys document).Nodup ∧ ∀ field ∈ document, field.2.WellFormed := by
  rw [← Bson.wellFormedFields_iff, WellFormed, Bson.WellFormed]

theorem WellFormed.get? {document : Document} (h : WellFormed document) {name : String}
    {value : Bson} (hvalue : Fields.get? document name = some value) : value.WellFormed :=
  (wellFormed_iff.mp h).2 _ (Fields.mem_of_get?_eq_some hvalue)

theorem WellFormed.insert {document : Document} (h : WellFormed document) (name : String)
    {value : Bson} (hvalue : value.WellFormed) :
    WellFormed (Fields.insert document name value) := by
  rw [wellFormed_iff] at h ⊢
  refine ⟨Fields.nodup_keys_insert h.1 name value, fun field hfield => ?_⟩
  -- The inserted field, or one that was there.
  rcases Fields.mem_insert hfield with rfl | hmem
  · exact hvalue
  · exact h.2 field hmem

theorem WellFormed.inner {document : Document} (h : WellFormed document) (name : String) :
    WellFormed (inner document name) := by
  unfold Document.inner
  split
  · next fields hfields => exact h.get? hfields
  · -- A step through anything but a document starts from an empty one.
    exact wellFormed_iff.mpr ⟨List.nodup_nil, by simp⟩

theorem WellFormed.setAt {document : Document} (h : WellFormed document) (path : List String)
    {value : Bson} (hvalue : value.WellFormed) : WellFormed (setAt document path value) := by
  -- A path of one name is an insertion, and a longer one goes on below its first name.
  match path with
  | [] => exact h
  | [name] => exact h.insert name hvalue
  | name :: next :: rest => exact h.insert name ((h.inner name).setAt (next :: rest) hvalue)

/-- **Changes keep documents well-formed.** -/
theorem WellFormed.applyChanges {document : Document} (h : WellFormed document)
    {changes : Fields Bson} (hchanges : ∀ change ∈ changes, change.2.WellFormed) :
    WellFormed (applyChanges document changes) := by
  unfold Document.applyChanges
  -- By the changes in order; each starts from a well-formed document.
  induction changes generalizing document with
  | nil => exact h
  | cons change rest ih =>
    rw [List.forall_mem_cons] at hchanges
    exact ih (h.setAt _ hchanges.1) hchanges.2

end Document

end DocumentApi
