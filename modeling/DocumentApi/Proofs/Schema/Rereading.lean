import DocumentApi.Proofs.Document.ChangeLaws
import DocumentApi.Proofs.Fields.Pairs
import DocumentApi.Proofs.Schema.Preparation

/-!
# Bodies that are read twice

A body makes a document when it is inserted, and changes to a document when it is sent to change
one. Both read the values of its fields alike (`Schema.readFields`), but not their names: a document
has a field under each name as it is written, while the name of a change is a path, of which each
dot begins another segment. So the changes of a body leave the document of the same body as it is
where the two readings come to the same place:

* `Document.applyChanges_eq_self`, `Document.applyChanges_eq_self_iff` — changes that a document
  `Holds`, each at the end of its path, leave it as it is, and if their paths do not overlap then no
  others do;
* `Schema.exists_changes_of_newDocument` — a body that makes a document makes changes too, and the
  document has the value of each of them under its name, which is the end of its path if the name is
  without dots (`Document.holds_of_get?`);
* `Schema.not_applyChanges_eq_self` — a name with a dot can come to another place.
-/

namespace DocumentApi

namespace Document

/-- Whether a document has the value of a change at the end of its path. -/
def Holds (document : Document) (change : String × Bson) : Prop :=
  (Bson.document document).valueAt? (segments change.1) = some change.2

variable {document : Document} {changes : Fields Bson}

/-- A change without dots in its name is held by the field under the name. -/
theorem holds_of_get? {change : String × Bson} (hname : '.' ∉ change.1.toList)
    (hvalue : Fields.get? document change.1 = some change.2) : document.Holds change := by
  unfold Holds
  -- The name is the only segment of its path.
  rw [segments_eq_singleton hname, Bson.valueAt?_document_cons, hvalue]
  rfl

theorem Holds.applyChange_eq_self {change : String × Bson} (h : document.Holds change) :
    document.applyChange change = document := by
  -- Writing a value where it is already changes nothing.
  have hwrite := Bson.writeAt_eq_self h
  rw [← document_applyChange] at hwrite
  exact Bson.document.inj hwrite

/-- **Changes that a document holds** leave it as it is. -/
theorem applyChanges_eq_self (h : ∀ change ∈ changes, document.Holds change) :
    document.applyChanges changes = document := by
  induction changes with
  | nil => rfl
  -- The first change leaves the document, so that the others are made to the same one.
  | cons change rest ih =>
    obtain ⟨hfirst, hrest⟩ := List.forall_mem_cons.mp h
    calc document.applyChanges (change :: rest)
        = (document.applyChange change).applyChanges rest := rfl
      _ = document.applyChanges rest := by rw [hfirst.applyChange_eq_self]
      _ = document := ih hrest

/-- Changes of which no two are in each other's way leave only those documents as they are that
hold them. -/
theorem applyChanges_eq_self_iff (hapart : changes.Pairwise ChangesApart) :
    document.applyChanges changes = document ↔ ∀ change ∈ changes, document.Holds change := by
  -- What a change has written stays to the end, as the others come to other places.
  refine ⟨fun hsame change hmem => ?_, applyChanges_eq_self⟩
  have hread := valueAt?_applyChanges_of_pairwise hapart hmem document
  rw [hsame] at hread
  exact hread

end Document

namespace Schema

variable {schema : Schema} {fresh : ObjectId} {object : Fields Json} {document : Document}
  {changes : Fields Bson}

/-- **A body that makes a document** makes changes too, and the document has the value of each of
them under its name. -/
theorem exists_changes_of_newDocument (h : schema.newDocument fresh object = .ok document) :
    ∃ changes, schema.changes object = .ok changes ∧
      ∀ change ∈ changes, Fields.get? document change.1 = some change.2 := by
  obtain ⟨id, stored, -, hstored, rfl⟩ := newDocument_eq_ok h
  refine ⟨Fields.ofPairs stored, by rw [Schema.changes, hstored]; rfl, fun change hmem => ?_⟩
  -- Under each name the changes have one value, the last that is given.
  have hchange : Fields.get? (Fields.ofPairs stored) change.1 = some change.2 :=
    Fields.get?_eq_some_of_mem (Fields.nodup_keys_ofPairs stored) hmem
  -- The identifier comes before the fields of the body, and what is filled in behind them.
  exact get?_fillFields (Fields.get?_ofPairs_cons hchange)

/-- A name with a dot becomes a field of its own in a document, and a change leads into another
field. -/
theorem not_applyChanges_eq_self :
    ¬ ∀ (schema : Schema) (fresh : ObjectId) (object : Fields Json) (document : Document)
        (changes : Fields Bson), schema.newDocument fresh object = .ok document →
          schema.changes object = .ok changes → document.applyChanges changes = document := by
  intro h
  -- The document has a field named with the dot, while the change leads to a field in another one.
  have hsame := h (.ofFields "items" []) (.ofNat 1) [("a.b", .int 1)]
    [("_id", .objectId (.ofNat 1)), ("a.b", .int64 1), ("isActive", .bool true)]
    [("a.b", .int64 1)] rfl rfl
  -- The change has left one more field.
  exact absurd (congrArg List.length hsame) (by decide)

end Schema

end DocumentApi
