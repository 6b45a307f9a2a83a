import DocumentApi.Proofs.Document.Writing
import Mathlib.Data.List.Induction

/-!
# What changes leave alone

A change puts a value at the end of its path and documents on the way there. The values at the ends
of all paths that do not overlap its own (`Criteria.Overlaps`) stay what they are, as long as only
documents are gone through:

* `Document.valueAt?_setAt_self`, `Document.valueAt?_setAt_of_not_overlaps` — the two halves for one
  change;
* `Document.valueAt?_applyChanges_of_forall`, `Document.valueAt?_applyChanges_of_last` — the same for
  changes made one after another.

Dotted paths are also read through arrays, and an array on the way of a change gives place to a
document. So the values behind an array are lost if a change goes on from the array in another
direction (`Document.resolve_applyChanges_of_sharesArray`), and only then
(`Document.resolve_applyChanges_of_not_sharesArray`).
-/

namespace DocumentApi

namespace Document

open Criteria (Overlaps)

variable {document : Document}

/-! ### One change -/

/-- **At the end of its path** a change puts its value. -/
theorem valueAt?_setAt_self {path : List String} (hpath : path ≠ []) (document : Document)
    (value : Bson) : (Bson.document (setAt document path value)).valueAt? path = some value := by
  rw [Bson.document_setAt hpath]
  exact Bson.valueAt?_writeAt_self _ path value

/-- On the way to the end of its path a change puts documents. -/
theorem valueAt?_setAt_of_prefix {path way : List String} (hway : way <+: path)
    (hne : way ≠ path) (document : Document) (value : Bson) :
    ∃ fields, (Bson.document (setAt document path value)).valueAt? way
      = some (.document fields) := by
  -- A further part of the path is left, so that the way leads to something with a field.
  obtain ⟨rest, rfl⟩ := hway
  have hrest : rest ≠ [] := fun hnil => hne (by rw [hnil, List.append_nil])
  have hpath : way ++ rest ≠ [] := fun hnil => hrest (List.append_eq_nil_iff.mp hnil).2
  exact Bson.valueAt?_eq_document_of_lt hrest (valueAt?_setAt_self hpath document value)

/-- **Beside its path** a change leaves every value as it is. -/
theorem valueAt?_setAt_of_not_overlaps {path other : List String} (h : ¬ Overlaps path other)
    (document : Document) (value : Bson) :
    (Bson.document (setAt document path value)).valueAt? other
      = (Bson.document document).valueAt? other := by
  -- The empty path would overlap every other one.
  have hpath : path ≠ [] := fun hnil => h (hnil ▸ Criteria.overlaps_nil_left other)
  rw [Bson.document_setAt hpath]
  exact Bson.valueAt?_writeAt_of_not_overlaps h _ value

/-! ### Several changes -/

variable {changes : Fields Bson}

theorem applyChanges_append (document : Document) (earlier later : Fields Bson) :
    applyChanges document (earlier ++ later)
      = applyChanges (applyChanges document earlier) later := by
  unfold applyChanges
  exact List.foldl_append

theorem applyChanges_cons (document : Document) (change : String × Bson) (rest : Fields Bson) :
    applyChanges document (change :: rest)
      = applyChanges (setAt document (segments change.1) change.2) rest := rfl

theorem applyChanges_append_singleton (document : Document) (changes : Fields Bson)
    (last : String × Bson) :
    applyChanges document (changes ++ [last])
      = setAt (applyChanges document changes) (segments last.1) last.2 := by
  rw [applyChanges_append, applyChanges_cons]
  rfl

/-- **Beside the paths of changes** every value stays as it is. -/
theorem valueAt?_applyChanges_of_forall {other : List String}
    (h : ∀ change ∈ changes, ¬ Overlaps (segments change.1) other) (document : Document) :
    (Bson.document (applyChanges document changes)).valueAt? other
      = (Bson.document document).valueAt? other := by
  -- Change by change, each beside the way.
  induction changes generalizing document with
  | nil => rfl
  | cons change rest ih =>
    rw [List.forall_mem_cons] at h
    rw [applyChanges_cons, ih h.2, valueAt?_setAt_of_not_overlaps h.1]

/-- **The last change at a place** puts its value there: later ones whose paths do not overlap its
own leave the value as it is. -/
theorem valueAt?_applyChanges_of_last {change : String × Bson} {earlier later : Fields Bson}
    (h : ∀ other ∈ later, ¬ Overlaps (segments other.1) (segments change.1))
    (document : Document) :
    (Bson.document (applyChanges document (earlier ++ change :: later))).valueAt?
      (segments change.1) = some change.2 := by
  rw [applyChanges_append, applyChanges_cons, valueAt?_applyChanges_of_forall h]
  exact valueAt?_setAt_self (segments_ne_nil change.1) _ change.2

/-- Changes that go on from the end of a way leave a document there, if none of them ends on the
way. -/
theorem valueAt?_applyChanges_of_prefix {way : List String}
    (hends : ∀ change ∈ changes, ¬ segments change.1 <+: way)
    (h : ∃ change ∈ changes, way <+: segments change.1) (document : Document) :
    ∃ fields, (Bson.document (applyChanges document changes)).valueAt? way
      = some (.document fields) := by
  -- The last change that goes on from there counts, so the induction takes them from the end.
  induction changes using List.reverseRecOn with
  | nil =>
    obtain ⟨change, hmem, -⟩ := h
    exact absurd hmem List.not_mem_nil
  | append_singleton changes last ih =>
    rw [List.forall_mem_append, List.forall_mem_singleton] at hends
    rw [applyChanges_append_singleton]
    by_cases hlast : way <+: segments last.1
    · -- The last change goes through the end of the way, where it puts a document.
      have hne : way ≠ segments last.1 := fun heq => hends.2 (heq ▸ List.prefix_refl _)
      exact valueAt?_setAt_of_prefix hlast hne _ last.2
    · -- The last change goes elsewhere, and leaves what the earlier ones put there.
      have hbeside : ¬ Overlaps (segments last.1) way := not_or.mpr ⟨hends.2, hlast⟩
      rw [valueAt?_setAt_of_not_overlaps hbeside]
      refine ih hends.1 ?_
      obtain ⟨change, hmem, hway⟩ := h
      rcases List.mem_append.mp hmem with hbefore | hsingle
      · exact ⟨change, hbefore, hway⟩
      · exact absurd (List.mem_singleton.mp hsingle ▸ hway) hlast

/-! ### Reading through arrays -/

/-- Whether a dotted path goes the same way as one of some changes as far as to an array. -/
def SharesArray (document : Document) (changes : Fields Bson) (path : String) : Prop :=
  ∃ change ∈ changes, ∃ way, way <+: segments change.1 ∧ way <+: segments path ∧
    (Bson.document document).ArrayAt way

/-- On the way of a path beside all changes, the only arrays after them are those before them that
no change goes on from. -/
private theorem arrayAt_applyChanges_iff {path : String}
    (h : ∀ change ∈ changes, ¬ Overlaps (segments change.1) (segments path)) {way : List String}
    (hway : way <+: segments path) (items : List Bson) :
    (Bson.document (applyChanges document changes)).valueAt? way = some (.array items) ↔
      (Bson.document document).valueAt? way = some (.array items) ∧
        ¬ ∃ change ∈ changes, way <+: segments change.1 := by
  -- A change that ends on the way ends on the path.
  have hends : ∀ change ∈ changes, ¬ segments change.1 <+: way :=
    fun change hmem hchange => h change hmem (Or.inl (hchange.trans hway))
  -- An array that a change goes on from is a document afterwards, and all others stay.
  by_cases hfurther : ∃ change ∈ changes, way <+: segments change.1
  · obtain ⟨fields, hfields⟩ := valueAt?_applyChanges_of_prefix hends hfurther document
    rw [hfields]
    exact iff_of_false (fun heq => by cases heq) fun hboth => hboth.2 hfurther
  · have hbeside : ∀ change ∈ changes, ¬ Overlaps (segments change.1) way :=
      fun change hmem => not_or.mpr ⟨hends change hmem, fun hon => hfurther ⟨change, hmem, hon⟩⟩
    rw [valueAt?_applyChanges_of_forall hbeside, and_iff_left hfurther]

variable {path : String}

/-- **Changes beside a path** leave what it reaches as it is, if none of them goes on from an array
on its way. -/
theorem resolve_applyChanges_of_not_sharesArray
    (h : ∀ change ∈ changes, ¬ Overlaps (segments change.1) (segments path))
    (hshares : ¬ SharesArray document changes path) :
    (applyChanges document changes).resolve path = document.resolve path := by
  rw [resolve_eq_follow, resolve_eq_follow]
  -- The same value at the end, and the same arrays on the way.
  refine Bson.follow_congr (valueAt?_applyChanges_of_forall h document) fun way hway items => ?_
  rw [arrayAt_applyChanges_iff h hway, and_iff_left_iff_imp]
  rintro hitems ⟨change, hmem, hon⟩
  exact hshares ⟨change, hmem, way, hon, hway, items, hitems⟩

/-- **A change that goes on from an array** takes what paths reached behind it. -/
theorem resolve_applyChanges_of_sharesArray
    (h : ∀ change ∈ changes, ¬ Overlaps (segments change.1) (segments path))
    (hshares : SharesArray document changes path) :
    (applyChanges document changes).resolve path = [] := by
  obtain ⟨change, hmem, way, hon, hway, harray⟩ := hshares
  have hne : way ≠ segments path := fun heq => h change hmem (Or.inr (heq ▸ hon))
  rw [resolve_eq_follow]
  refine Bson.follow_eq_nil_of_array harray hway hne (valueAt?_applyChanges_of_forall h document)
    ?_ ?_
  · -- Nothing on the way becomes an array, and this array is lost.
    rintro other hother ⟨items, hitems⟩
    exact ⟨items, ((arrayAt_applyChanges_iff h hother items).mp hitems).1⟩
  · rintro ⟨items, hitems⟩
    exact ((arrayAt_applyChanges_iff h hway items).mp hitems).2 ⟨change, hmem, hon⟩

end Document

end DocumentApi
