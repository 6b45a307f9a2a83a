import DocumentApi.Proofs.Document.Untouched
import DocumentApi.Proofs.Store.Writes

/-!
# What an update leaves alone

An update of a stored document is partial: it gives the fields at the ends of some paths new values.
Whether it touches only what it names depends on the arrays of the document, since criteria are
answered through arrays, and updates are not made through them.

* `Collection.resolve_of_update` — a path that overlaps none of the paths of an update reaches the
  same values before and after it, unless one of them goes on from an array that the path goes
  through; then it reaches nothing any more.
* `Collection.not_touchesOnlyNamed` — so an update of the first item of a list loses all others.
-/

namespace DocumentApi

open Criteria (Overlaps)

namespace Document

/-- Whether two versions of a document differ only in what the paths of some changes name: every
path that overlaps none of them reaches the same values in both. -/
def TouchesOnlyNamed (changes : Fields Bson) (before after : Document) : Prop :=
  ∀ path, (∀ change ∈ changes, ¬ Overlaps (segments change.1) (segments path)) →
    after.resolve path = before.resolve path

end Document

namespace Collection

/-- **What an update leaves alone.** Take an update that is carried out, and a path that overlaps
none of its paths. If the path goes the same way as one of them as far as to an array, then it
reaches nothing after the update, since the array has given place to a document. Otherwise it
reaches what it reached before, also through arrays. -/
theorem resolve_of_update {collection result : Collection} {name : String} {id : ObjectId}
    {changes : Fields Bson} {before after : Document}
    (hupdate : collection.update name id changes = .ok (some (before, after, result)))
    {path : String}
    (hpath : ∀ change ∈ changes, ¬ Overlaps (segments change.1) (segments path)) :
    (before.SharesArray changes path → after.resolve path = []) ∧
      (¬ before.SharesArray changes path → after.resolve path = before.resolve path) := by
  -- The documents before and after an update differ by its changes and nothing else.
  obtain ⟨place, -, -, rfl, -, -⟩ := update_eq_ok hupdate
  exact ⟨Document.resolve_applyChanges_of_sharesArray hpath,
    Document.resolve_applyChanges_of_not_sharesArray hpath⟩

/-- An item with two lengths and a unit. -/
def measured : Document :=
  [("_id", .objectId (.ofNat 1)), ("lengths", .array [.int32 10, .int32 20]), ("unit", .null)]

/-- A collection of one item. -/
def measuredItems : Collection := ⟨[measured], []⟩

/-- The item after its unit is changed. -/
def measuredInMetres : Document :=
  [("_id", .objectId (.ofNat 1)), ("lengths", .array [.int32 10, .int32 20]),
    ("unit", .string "m")]

/-- An update of another field leaves both items of the list where they are. -/
theorem resolve_of_update_unit :
    measuredItems.update "items" (.ofNat 1) [("unit", .string "m")]
        = .ok (some (measured, measuredInMetres, ⟨[measuredInMetres], []⟩)) ∧
      (∀ change ∈ [("unit", Bson.string "m")],
        ¬ Overlaps (segments change.1) (segments "lengths.1")) ∧
      ¬ measured.SharesArray [("unit", .string "m")] "lengths.1" ∧
      measuredInMetres.resolve "lengths.1" = measured.resolve "lengths.1" := by
  -- The update runs and is carried out.
  have hupdate : measuredItems.update "items" (.ofNat 1) [("unit", .string "m")]
      = .ok (some (measured, measuredInMetres, ⟨[measuredInMetres], []⟩)) := rfl
  -- The two paths part at their first segments.
  have hpath : ∀ change ∈ [("unit", Bson.string "m")],
      ¬ Overlaps (segments change.1) (segments "lengths.1") := by
    rw [List.forall_mem_singleton]
    decide +kernel
  have hshares : ¬ measured.SharesArray [("unit", .string "m")] "lengths.1" := by
    rintro ⟨change, hmem, way, hon, hway, items, hitems⟩
    obtain rfl := List.mem_singleton.mp hmem
    have hunit : segments "unit" = ["unit"] := by decide +kernel
    have hlengths : segments "lengths.1" = ["lengths", "1"] := by decide +kernel
    rw [hunit] at hon
    rw [hlengths] at hway
    -- The two paths have no name in common, and the document itself is no array.
    cases way with
    | nil => cases hitems
    | cons first rest =>
      rw [List.cons_prefix_cons] at hon hway
      exact absurd (hon.1.symm.trans hway.1) (by decide)
  exact ⟨hupdate, hpath, hshares, (resolve_of_update hupdate hpath).2 hshares⟩

/-- **Not every update touches only what it names.** An update of the first item of a list puts a
document in the place of the list, so that there is no second item any more. -/
theorem not_touchesOnlyNamed : ¬ ∀ (collection : Collection) (name : String) (id : ObjectId)
    (changes : Fields Bson) (before after : Document) (result : Collection),
    collection.update name id changes = .ok (some (before, after, result)) →
      Document.TouchesOnlyNamed changes before after := by
  -- The list gives place to a document with the one item, so its second item is gone.
  intro h
  have hupdate : measuredItems.update "items" (.ofNat 1) [("lengths.0", .int32 15)]
      = .ok (some (measured, _, _)) := rfl
  -- The other item is at a path that does not overlap the first one.
  have hpath : ∀ change ∈ [("lengths.0", Bson.int32 15)],
      ¬ Overlaps (segments change.1) (segments "lengths.1") := by
    rw [List.forall_mem_singleton]
    decide +kernel
  have hresolve := h _ _ _ _ _ _ _ hupdate "lengths.1" hpath
  have hlength := congrArg List.length hresolve
  -- Before the update the path reached one value, and after it none.
  exact absurd hlength (by decide +kernel)

end Collection

end DocumentApi
