import DocumentApi.Document.Path

/-!
# Changing fields

A change gives the field at the end of a dotted path a new value. Documents on the way that are
absent are created, and values on the way that are no documents, arrays too, give place to
documents.
-/

namespace DocumentApi.Document

/-- The document that is the value of a field; an empty one if there is no such value. -/
def inner (document : Document) (name : String) : Document :=
  match Fields.get? document name with
  | some (.document fields) => fields
  | _ => []

/-- Gives the field at the end of a path a value. -/
def setAt (document : Document) : List String → Bson → Document
  | [], _ => document
  | [name], value => Fields.insert document name value
  | name :: next :: rest, value =>
    Fields.insert document name (.document (setAt (inner document name) (next :: rest) value))

/-- Makes one change, given by a dotted path and a value. -/
def applyChange (document : Document) (change : String × Bson) : Document :=
  document.setAt (segments change.1) change.2

/-- Makes changes from left to right. -/
def applyChanges (document : Document) (changes : Fields Bson) : Document :=
  changes.foldl applyChange document

end DocumentApi.Document
