import DocumentApi.Proofs.Document.Field
import DocumentApi.Proofs.Fields.Pairs
import DocumentApi.Proofs.Steps
import DocumentApi.Schema.Body
import DocumentApi.Store

/-!
# Changes and the identifier

A body is read twice on its way to a stored document. `Schema.changes` drops the field whose name is
that of the identifier, and `Document.applyChanges` takes the names of all others for dotted paths.
A path may lead *into* the identifier: its first segment is the name of the identifier and more
segments follow. Such a name is not dropped, and the change it makes replaces the identifier by a
document.

* `Schema.mem_keys_changes` — the changes that a body makes have the names of its fields except that
  of the identifier;
* `Document.id?_applyChanges` — changes leave the identifier as it is if none of them leads into it;
* `Document.id?_applyChanges_eq_none` — otherwise there is no identifier after them.
-/

namespace DocumentApi

/-! ### The changes that a body makes -/

theorem Fields.mem_keys_foldl_insert {α : Type} {pairs : List (String × α)} {fields : Fields α}
    {name : String} :
    name ∈ keys (pairs.foldl (fun fields pair => insert fields pair.1 pair.2) fields) ↔
      name ∈ keys fields ∨ name ∈ keys pairs := by
  -- Each pair adds its name, if it is not there.
  induction pairs generalizing fields with
  | nil => simp
  | cons pair rest ih =>
    obtain ⟨key, value⟩ := pair
    rw [List.foldl_cons, ih, mem_keys_insert, keys_cons, List.mem_cons, or_assoc]

theorem Fields.mem_keys_ofPairs {α : Type} {pairs : List (String × α)} {name : String} :
    name ∈ keys (ofPairs pairs) ↔ name ∈ keys pairs := by
  unfold ofPairs
  rw [mem_keys_foldl_insert]
  simp

namespace Schema

theorem keys_readFields {schema : Schema} {body : Fields Json} {fields : Fields Bson}
    (h : schema.readFields body = .ok fields) :
    Fields.keys fields = (Fields.keys body).filter (· ≠ idField) := by
  induction body generalizing fields with
  | nil =>
    cases h
    rfl
  -- Name by name, and only that of the identifier is passed over.
  | cons field rest ih =>
    obtain ⟨name, value⟩ := field
    rw [readFields] at h
    rw [Fields.keys_cons]
    by_cases hname : name = idField
    · -- The field is dropped.
      rw [if_pos hname] at h
      rw [List.filter_cons_of_neg (by simpa using hname), ih h]
    · rw [if_neg hname] at h
      obtain ⟨stored, -, h⟩ := exists_of_bind_eq_ok h
      obtain ⟨others, hothers, h⟩ := exists_of_bind_eq_ok h
      cases h
      rw [List.filter_cons_of_pos (by simpa using hname), Fields.keys_cons, ih hothers]

/-- **The names of changes** are those of the fields of the body, except that of the identifier. -/
theorem mem_keys_changes {schema : Schema} {body : Fields Json} {changes : Fields Bson}
    (h : schema.changes body = .ok changes) {name : String} :
    name ∈ Fields.keys changes ↔ name ∈ Fields.keys body ∧ name ≠ idField := by
  -- The changes are the fields of the body that were read, each under its name.
  unfold Schema.changes at h
  obtain ⟨fields, hfields, h⟩ := exists_of_bind_eq_ok h
  cases h
  rw [Fields.mem_keys_ofPairs, keys_readFields hfields, List.mem_filter, decide_eq_true_eq]

/-- The identifier itself is not changed. -/
theorem idField_notMem_changes {schema : Schema} {body : Fields Json} {changes : Fields Bson}
    (h : schema.changes body = .ok changes) : idField ∉ Fields.keys changes :=
  fun hmem => ((mem_keys_changes h).mp hmem).2 rfl

end Schema

/-! ### Paths into the identifier -/

namespace Document

/-- Whether a dotted path leads to a place inside the identifier. -/
def LeadsIntoId (path : String) : Prop :=
  ∃ next rest, segments path = Schema.idField :: next :: rest

/-- A path of one segment does not lead into the identifier. -/
theorem not_leadsIntoId {path name : String} (h : segments path = [name]) : ¬ LeadsIntoId path :=
  not_leadsInto h Schema.idField

variable {document : Document} {changes : Fields Bson}

/-- **Changes beside the identifier.** -/
theorem id?_applyChanges (hnames : Schema.idField ∉ Fields.keys changes)
    (h : ∀ name ∈ Fields.keys changes, ¬ LeadsIntoId name) :
    (applyChanges document changes).id? = document.id? := by
  unfold id?
  rw [get?_applyChanges_of_forall hnames h]

/-- **Changes into the identifier** leave a document without one. -/
theorem id?_applyChanges_eq_none (hnames : Schema.idField ∉ Fields.keys changes)
    (h : ∃ name ∈ Fields.keys changes, LeadsIntoId name) :
    (applyChanges document changes).id? = none := by
  obtain ⟨fields, hfields⟩ :
      ∃ fields, Fields.get? (applyChanges document changes) Schema.idField
        = some (.document fields) := get?_applyChanges_of_exists hnames h
  unfold id?
  rw [hfields]
  rfl

/-- Changes that do not name the identifier keep it or leave none. -/
theorem id?_applyChanges_cases (document : Document)
    (hnames : Schema.idField ∉ Fields.keys changes) :
    (applyChanges document changes).id? = document.id? ∨
      (applyChanges document changes).id? = none := by
  unfold id?
  -- A document in the place of the identifier is none.
  rcases get?_applyChanges_cases document hnames with hsame | ⟨fields, hfields⟩
  · exact Or.inl (by rw [hsame])
  · exact Or.inr (by rw [hfields]; rfl)

end Document

end DocumentApi
