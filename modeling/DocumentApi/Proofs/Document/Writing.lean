import DocumentApi.Proofs.Bson.Reordering
import DocumentApi.Proofs.Criteria.Questions
import DocumentApi.Proofs.Document.Path

/-!
# Writing into a value

`Document.setAt` gives the field at the end of a path a value, and treats the last name of a path
apart from the others. Here the same is done inside any value (`Bson.writeAt`), where a path may be
empty and every name of it is treated alike, so that what holds of writing is shown by induction on
the path:

* `Bson.valueAt?_writeAt_self`, `Bson.valueAt?_writeAt_of_not_overlaps` — what is read afterwards,
  at the end of the path and beside it;
* `Bson.writeAt_eq_self` — writing what stands there already changes nothing;
* `Bson.Reordered.writeAt` — writing does not see the order of fields;
* `Bson.reordered_writeAt_writeAt` — writing in two places that are not in each other's way may be
  done in either order.
-/

namespace DocumentApi

namespace Bson

open Criteria (Overlaps overlaps_nil_left overlaps_cons_cons)

/-- The fields of a document. A value of another kind has none. -/
def innerFields : Bson → Document
  | .document fields => fields
  | _ => []

/-- The value under a name in a document, and null where there is none. -/
def held (value : Bson) (name : String) : Bson :=
  (value.field? name).getD .null

/-- Puts a value at the end of a path inside another value, which gives place to a document if it is
none. -/
def writeAt (old : Bson) : List String → Bson → Bson
  | [], value => value
  | name :: rest, value =>
    .document (Fields.insert old.innerFields name ((old.held name).writeAt rest value))

theorem writeAt_nil (old value : Bson) : old.writeAt [] value = value := rfl

theorem writeAt_cons (old : Bson) (name : String) (rest : List String) (value : Bson) :
    old.writeAt (name :: rest) value
      = .document (Fields.insert old.innerFields name ((old.held name).writeAt rest value)) := rfl

theorem held_document (document : Document) (name : String) :
    (Bson.document document).held name = (Fields.get? document name).getD .null := rfl

/-- Only the fields of a value matter to what is held in it. -/
theorem held_document_innerFields (value : Bson) (name : String) :
    (Bson.document value.innerFields).held name = value.held name := by
  cases value <;> rfl

theorem innerFields_held (document : Document) (name : String) :
    ((Bson.document document).held name).innerFields = document.inner name := by
  rw [held_document]
  unfold Document.inner
  cases Fields.get? document name with
  | none => rfl
  | some value => cases value <;> rfl

/-- **Changing a document** is writing into it. -/
theorem document_setAt {path : List String} (hpath : path ≠ []) (document : Document)
    (value : Bson) :
    .document (document.setAt path value) = (Bson.document document).writeAt path value := by
  induction path generalizing document with
  | nil => exact absurd rfl hpath
  | cons name rest ih =>
    -- A single name is inserted in both ways; a longer path goes on in the inner document.
    cases rest with
    | nil => rfl
    | cons next rest =>
      rw [Document.setAt, ih (List.cons_ne_nil next rest), ← innerFields_held, writeAt_cons,
        writeAt_cons, writeAt_cons, held_document_innerFields]
      rfl

/-! ### Reading what was written -/

theorem field?_writeAt_cons_self (old : Bson) (name : String) (rest : List String) (value : Bson) :
    (old.writeAt (name :: rest) value).field? name = some ((old.held name).writeAt rest value) :=
  Fields.get?_insert_self _ name _

theorem field?_innerFields (value : Bson) (name : String) :
    Fields.get? value.innerFields name = value.field? name := by
  cases value <;> rfl

theorem field?_writeAt_cons_of_ne {name other : String} (h : name ≠ other) (old : Bson)
    (rest : List String) (value : Bson) :
    (old.writeAt (name :: rest) value).field? other = old.field? other := by
  change Fields.get? (Fields.insert old.innerFields name _) other = old.field? other
  rw [Fields.get?_insert_of_ne h, field?_innerFields]

/-- What is held under a name leads on as the name itself does. -/
theorem valueAt?_held (value : Bson) (name : String) {rest : List String} (hrest : rest ≠ []) :
    (value.held name).valueAt? rest = value.valueAt? (name :: rest) := by
  obtain ⟨next, rest, rfl⟩ := List.exists_cons_of_ne_nil hrest
  unfold held
  rw [valueAt?_cons value]
  -- Without a field there is null, from which nothing leads on either.
  cases value.field? name <;> rfl

/-- **At the end of its path** a value that was written is found. -/
theorem valueAt?_writeAt_self (old : Bson) (path : List String) (value : Bson) :
    (old.writeAt path value).valueAt? path = some value := by
  -- By the path; each name leads into what was written below it.
  induction path generalizing old with
  | nil => rfl
  | cons name rest ih =>
    rw [valueAt?_cons, field?_writeAt_cons_self, Option.bind_some]
    exact ih (old.held name)

/-- **Beside its path** everything is found that was there before. -/
theorem valueAt?_writeAt_of_not_overlaps {path other : List String} (h : ¬ Overlaps path other)
    (old value : Bson) : (old.writeAt path value).valueAt? other = old.valueAt? other := by
  induction path generalizing old other with
  | nil => exact absurd (overlaps_nil_left other) h
  | cons name rest ih =>
    cases other with
    | nil => exact absurd (overlaps_nil_left _).symm h
    | cons first others =>
      by_cases hname : name = first
      · -- Both go the same way for one more name, and none of them ends here.
        subst hname
        rw [overlaps_cons_cons, and_iff_right rfl] at h
        have hothers : others ≠ [] := fun hnil => h (hnil ▸ (overlaps_nil_left rest).symm)
        rw [valueAt?_cons, field?_writeAt_cons_self, Option.bind_some]
        calc ((old.held name).writeAt rest value).valueAt? others
            = (old.held name).valueAt? others := ih h _
          _ = old.valueAt? (name :: others) := valueAt?_held old name hothers
      · -- From here on they go different ways.
        rw [valueAt?_cons, field?_writeAt_cons_of_ne hname, ← valueAt?_cons]

/-- **A value that stands at the end of a path already** makes no difference when it is written
there. -/
theorem writeAt_eq_self {value written : Bson} {path : List String}
    (h : value.valueAt? path = some written) : value.writeAt path written = value := by
  induction path generalizing value with
  | nil => exact (Option.some.inj h).symm
  | cons name rest ih =>
    -- The first name leads to a value, through which the rest of the path does.
    rw [valueAt?_cons] at h
    obtain ⟨below, hbelow, hrest⟩ := Option.bind_eq_some_iff.mp h
    cases value with
    | document fields =>
      have hfield : Fields.get? fields name = some below := hbelow
      rw [writeAt_cons, held_document, hfield, Option.getD_some, ih hrest]
      exact congrArg Bson.document (Fields.insert_of_get?_eq_some hfield)
    | _ => cases hbelow

/-! ### Writing and the order of fields -/

theorem Reordered.innerFields {a b : Bson} (h : Reordered a b) :
    Document.Reordered a.innerFields b.innerFields := by
  cases h with
  | refl => exact .refl _
  | document hkeys hvalues => exact .document hkeys hvalues

theorem Reordered.held {a b : Bson} (h : Reordered a b) (name : String) :
    -- Either both hold a value under the name, or none of them does.
    Reordered (a.held name) (b.held name) := by
  unfold Bson.held
  rw [← field?_innerFields, ← field?_innerFields]
  cases hfield : Fields.get? a.innerFields name with
  | none =>
    rw [h.innerFields.get?_eq_none hfield]
    exact .refl _
  | some value =>
    obtain ⟨other, hother, hvalue⟩ := h.innerFields.exists_get? hfield
    rw [hother]
    exact hvalue

/-- **Writing** keeps values the same up to the order of fields. -/
theorem Reordered.writeAt {a b : Bson} (h : Reordered a b) (path : List String) (value : Bson) :
    Reordered (a.writeAt path value) (b.writeAt path value) := by
  induction path generalizing a b with
  | nil => exact .refl value
  -- The value under the first name is written into on both sides.
  | cons name rest ih => exact h.innerFields.insert name (ih (h.held name))

/-- What is held under other names does not change. -/
theorem held_writeAt_cons_of_ne {name other : String} (h : name ≠ other) (old : Bson)
    (rest : List String) (value : Bson) :
    (old.writeAt (name :: rest) value).held other = old.held other := by
  unfold held
  rw [field?_writeAt_cons_of_ne h]

theorem held_writeAt_cons_self (old : Bson) (name : String) (rest : List String) (value : Bson) :
    (old.writeAt (name :: rest) value).held name = (old.held name).writeAt rest value := by
  unfold held
  rw [field?_writeAt_cons_self, Option.getD_some]
  rfl

/-- **Writing in two places** that are not in each other's way gives the same in either order, up to
the order of fields. -/
theorem reordered_writeAt_writeAt {path other : List String} (h : ¬ Overlaps path other)
    (old value value' : Bson) :
    Reordered ((old.writeAt path value).writeAt other value')
      ((old.writeAt other value').writeAt path value) := by
  induction path generalizing old other with
  | nil => exact absurd (overlaps_nil_left other) h
  | cons name rest ih =>
    cases other with
    | nil => exact absurd (overlaps_nil_left _).symm h
    | cons first others =>
      rw [writeAt_cons (old.writeAt (name :: rest) value),
        writeAt_cons (old.writeAt (first :: others) value')]
      by_cases hname : name = first
      · -- The second one replaces the field that the first one has written.
        subst hname
        rw [overlaps_cons_cons, and_iff_right rfl] at h
        rw [held_writeAt_cons_self, held_writeAt_cons_self, writeAt_cons old name rest,
          writeAt_cons old name others]
        simp only [innerFields]
        rw [Fields.insert_insert, Fields.insert_insert]
        exact (Document.Reordered.refl _).insert name (ih h (old.held name))
      · -- Under different names two insertions change places.
        rw [held_writeAt_cons_of_ne hname, held_writeAt_cons_of_ne (Ne.symm hname),
          writeAt_cons old name rest, writeAt_cons old first others]
        exact Document.reordered_insert_insert _ hname _ _

end Bson

end DocumentApi
