import DocumentApi.Document.Update
import DocumentApi.Proofs.Document.Field
import Mathlib.Algebra.Order.BigOperators.Group.List
import Mathlib.Algebra.Order.Group.Nat
import Mathlib.Data.List.Infix

/-!
# Ways through documents

A dotted path is followed through documents and through arrays (`Bson.follow`). Changes and
projections go through documents only: an array on their way is where they stop. What they do is
therefore said of `Bson.valueAt?`, the value to which a list of names leads through nothing but
documents, and what paths reach is derived from it:

* `Bson.follow_of_valueAt?` — as far as a path leads through documents, following it is looking up
  its names;
* `Bson.follow_eq_nil` — a path that ends nowhere, and meets no array before, reaches nothing;
* `Bson.follow_congr` — so a path reaches the same from two values if it ends at the same value in
  both and meets the same arrays.
-/

namespace DocumentApi

/-- The lengths of finitely many paths have a bound. -/
theorem exists_forall_length_lt (paths : List (List String)) :
    ∃ bound, ∀ path ∈ paths, path.length < bound := by
  refine ⟨(paths.map List.length).sum + 1, fun path hmem => Nat.lt_succ_of_le ?_⟩
  exact List.le_sum_of_mem (List.mem_map_of_mem hmem)

namespace Bson

variable {value : Bson} {way path : List String}

/-! ### Looking up one name after another -/

/-- The value to which names lead from a value through documents, if they lead anywhere. -/
def valueAt? (value : Bson) : List String → Option Bson
  | [] => some value
  | name :: rest => (value.field? name).bind fun below => below.valueAt? rest

@[simp] theorem valueAt?_nil (value : Bson) : value.valueAt? [] = some value := rfl

theorem valueAt?_cons (value : Bson) (name : String) (rest : List String) :
    value.valueAt? (name :: rest) = (value.field? name).bind fun below => below.valueAt? rest := rfl

theorem valueAt?_document_cons (document : Document) (name : String) (rest : List String) :
    (Bson.document document).valueAt? (name :: rest)
      = (Fields.get? document name).bind fun below => below.valueAt? rest := rfl

theorem valueAt?_append (value : Bson) (way rest : List String) :
    value.valueAt? (way ++ rest) = (value.valueAt? way).bind fun below => below.valueAt? rest := by
  -- One name more is looked up in the value that it leads to.
  induction way generalizing value with
  | nil => rfl
  | cons name way ih =>
    rw [List.cons_append, valueAt?_cons, valueAt?_cons, Option.bind_assoc]
    refine Option.bind_congr fun below _ => ?_
    exact ih below

/-- Where names lead somewhere, the first of them lead to a value as well, and to a document if
there are others behind them. -/
theorem valueAt?_eq_document_of_lt {rest : List String} {found : Bson} (hrest : rest ≠ [])
    (h : value.valueAt? (way ++ rest) = some found) :
    ∃ fields, value.valueAt? way = some (.document fields) := by
  rw [valueAt?_append] at h
  obtain ⟨below, hway, hbelow⟩ := Option.bind_eq_some_iff.mp h
  obtain ⟨name, rest, rfl⟩ := List.exists_cons_of_ne_nil hrest
  -- A value that is no document has no fields to go on from.
  cases below with
  | document fields => exact ⟨fields, hway⟩
  | _ => cases hbelow

/-- Names that go on behind an array lead nowhere. -/
theorem valueAt?_eq_none_of_array {items : List Bson} (hon : way <+: path) (hne : way ≠ path)
    (h : value.valueAt? way = some (.array items)) : value.valueAt? path = none := by
  obtain ⟨rest, rfl⟩ := hon
  -- There is a further name, so that the array would have to be a document.
  have hrest : rest ≠ [] := fun hnil => hne (by rw [hnil, List.append_nil])
  by_contra hsome
  obtain ⟨found, hfound⟩ := Option.ne_none_iff_exists'.mp hsome
  obtain ⟨fields, hfields⟩ := valueAt?_eq_document_of_lt hrest hfound
  rw [h] at hfields
  cases hfields

/-- Whether an array stands at the end of a way through documents. -/
def ArrayAt (value : Bson) (way : List String) : Prop :=
  ∃ items, value.valueAt? way = some (.array items)

/-! ### Following a path -/

theorem follow_nil (names : List String) : follow [] names = [] := by
  induction names with
  | nil => rfl
  | cons name rest ih => exact ih

theorem follow_singleton_cons (value : Bson) (name : String) (rest : List String) :
    follow [value] (name :: rest) = follow (step name value) rest := by
  unfold follow
  rw [List.foldl_cons, List.flatMap_singleton]

/-- **Through documents**, a path is followed by looking up its names. -/
theorem follow_of_valueAt? {found : Bson} (h : value.valueAt? way = some found)
    (rest : List String) : follow [value] (way ++ rest) = follow [found] rest := by
  -- One name is one step.
  induction way generalizing value with
  | nil =>
    rw [valueAt?_nil, Option.some.injEq] at h
    rw [h, List.nil_append]
  | cons name way ih =>
    rw [valueAt?_cons] at h
    obtain ⟨below, hfield, hbelow⟩ := Option.bind_eq_some_iff.mp h
    -- The value has a field, so it is a document, and one step leads to the field.
    cases value with
    | document fields =>
      have hstep : step name (.document fields) = [below] := by
        change (Fields.get? fields name).toList = [below]
        rw [show Fields.get? fields name = some below from hfield]
        rfl
      rw [List.cons_append, follow_singleton_cons, hstep]
      exact ih hbelow
    | _ => cases hfield

/-- The value at the end of a path through documents is all that the path reaches. -/
theorem follow_eq_singleton {found : Bson} (h : value.valueAt? path = some found) :
    follow [value] path = [found] := by
  have hfollow := follow_of_valueAt? h []
  rw [List.append_nil] at hfollow
  exact hfollow

/-- **A path that ends nowhere** reaches nothing, unless it meets an array. -/
theorem follow_eq_nil (hend : value.valueAt? path = none)
    (harrays : ∀ way, way <+: path → ¬ value.ArrayAt way) : follow [value] path = [] := by
  induction path generalizing value with
  -- A path without names ends at the value itself.
  | nil => cases hend
  | cons name rest ih =>
    rw [follow_singleton_cons]
    cases value with
    | document fields =>
      change follow (Fields.get? fields name).toList rest = []
      rw [valueAt?_document_cons] at hend
      cases hfield : Fields.get? fields name with
      | none => exact follow_nil rest
      | some below =>
        rw [hfield, Option.bind_some] at hend
        refine ih hend fun way hway => ?_
        rintro ⟨items, hitems⟩
        -- An array that is met from the field is met from the document.
        refine harrays (name :: way) (List.cons_prefix_cons.mpr ⟨rfl, hway⟩) ⟨items, ?_⟩
        rw [valueAt?_document_cons, hfield, Option.bind_some, hitems]
    | array items => exact absurd ⟨items, rfl⟩ (harrays [] List.nil_prefix)
    | _ => exact follow_nil rest

/-- On a path there is one array at most: behind it only items are gone through. -/
theorem ArrayAt.unique {other : List String} (h : value.ArrayAt way) (h' : value.ArrayAt other)
    (hway : way <+: path) (hother : other <+: path) : way = other := by
  obtain ⟨items, hitems⟩ := h
  obtain ⟨items', hitems'⟩ := h'
  by_contra hne
  -- One of the two ways goes on from the other, so that it would lead behind an array.
  rcases List.prefix_or_prefix_of_prefix hway hother with hle | hle
  · have hnone := valueAt?_eq_none_of_array hle hne hitems
    rw [hitems'] at hnone
    cases hnone
  · have hnone := valueAt?_eq_none_of_array hle (Ne.symm hne) hitems'
    rw [hitems] at hnone
    cases hnone

/-- **A path through an array** reaches nothing any more where the array is lost: in a value that has
the same at the end of the path, and on the way to it no array but those of the first value. -/
theorem follow_eq_nil_of_array {lost : Bson} (harray : value.ArrayAt way) (hway : way <+: path)
    (hne : way ≠ path) (hend : lost.valueAt? path = value.valueAt? path)
    (harrays : ∀ other, other <+: path → lost.ArrayAt other → value.ArrayAt other)
    (hlost : ¬ lost.ArrayAt way) : follow [lost] path = [] := by
  -- No array of the lost value can be on the path, as it would be this one.
  refine follow_eq_nil ?_ fun other hother hleft => ?_
  · obtain ⟨items, hitems⟩ := harray
    rw [hend]
    exact valueAt?_eq_none_of_array hway hne hitems
  · have hsame : way = other := harray.unique (harrays other hother hleft) hway hother
    exact hlost (hsame ▸ hleft)

/-- **What a path reaches** depends on the value at its end and on the arrays that it meets. -/
theorem follow_congr {other : Bson} (hend : value.valueAt? path = other.valueAt? path)
    (harrays : ∀ way, way <+: path → ∀ items,
      value.valueAt? way = some (.array items) ↔ other.valueAt? way = some (.array items)) :
    follow [value] path = follow [other] path := by
  by_cases harray : ∃ way, way <+: path ∧ value.ArrayAt way
  · -- Both ways lead to the same array, and go on from there.
    obtain ⟨way, hway, items, hitems⟩ := harray
    have hitems' := (harrays way hway items).mp hitems
    obtain ⟨rest, rfl⟩ := hway
    rw [follow_of_valueAt? hitems, follow_of_valueAt? hitems']
  · -- Without an array on the way, the path reaches what is at its end, or nothing.
    cases hvalue : value.valueAt? path with
    | some found =>
      rw [follow_eq_singleton hvalue, follow_eq_singleton (hend.symm.trans hvalue)]
    | none =>
      have hnone : ∀ way, way <+: path → ¬ value.ArrayAt way :=
        fun way hway hitems => harray ⟨way, hway, hitems⟩
      have hnone' : ∀ way, way <+: path → ¬ other.ArrayAt way := by
        rintro way hway ⟨items, hitems⟩
        exact hnone way hway ⟨items, (harrays way hway items).mpr hitems⟩
      rw [follow_eq_nil hvalue hnone, follow_eq_nil (hend.symm.trans hvalue) hnone']

end Bson

namespace Document

/-- A dotted path is followed from the document. -/
theorem resolve_eq_follow (document : Document) (path : String) :
    document.resolve path = Bson.follow [.document document] (segments path) := by
  obtain ⟨first, rest, hsegments⟩ := List.exists_cons_of_ne_nil (segments_ne_nil path)
  unfold resolve
  rw [hsegments, Bson.follow_singleton_cons]
  rfl

/-- A path that leads through documents reaches the value at its end. -/
theorem resolve_eq_singleton {document : Document} {path : String} {found : Bson}
    (h : (Bson.document document).valueAt? (segments path) = some found) :
    document.resolve path = [found] := by
  rw [resolve_eq_follow, Bson.follow_eq_singleton h]

end Document

end DocumentApi
