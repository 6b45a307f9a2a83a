import DocumentApi.Bson.Comparable
import DocumentApi.Document.Path

/-!
# The order of documents

Documents are compared by the first values that the sort keys reach in them, an absent value like
null, the most important key first. Not all documents are put in order by this: NaN ties with every
number.
-/

namespace DocumentApi.Document

/-- What a document is sorted by under one key. -/
def sortValue (document : Document) (key : SortKey) : Comparable :=
  match document.resolve key.field with
  | value :: _ => value.comparable
  | [] => .null

/-- The order of two documents under a list of keys. -/
def compareBy (keys : List SortKey) (a b : Document) : Ordering :=
  match keys with
  | [] => .eq
  | key :: rest =>
    (Comparable.compareToward key.direction (a.sortValue key) (b.sortValue key)).then
      (compareBy rest a b)

/-- Whether keys put some documents in order: what comes no later than a second document, which
comes no later than a third one, comes no later than the third one. -/
def Ordered (keys : List SortKey) (documents : List Document) : Prop :=
  ∀ a ∈ documents, ∀ b ∈ documents, ∀ c ∈ documents,
    (compareBy keys a b).isLE → (compareBy keys b c).isLE → (compareBy keys a c).isLE

instance (keys : List SortKey) (documents : List Document) : Decidable (Ordered keys documents) :=
  inferInstanceAs (Decidable (∀ a ∈ documents, ∀ b ∈ documents, ∀ c ∈ documents,
    (compareBy keys a b).isLE → (compareBy keys b c).isLE → (compareBy keys a c).isLE))

/-- All documents tie where there are no keys. -/
theorem ordered_nil (documents : List Document) : Ordered [] documents :=
  fun _ _ _ _ _ _ _ _ => rfl

end DocumentApi.Document
