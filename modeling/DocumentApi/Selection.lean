import DocumentApi.Criteria
import DocumentApi.Projection
import DocumentApi.SortSpec

/-!
# Selections

A selection says what a read of a collection is about: which documents, which of their fields, in
which order, and which part of the list.
-/

namespace DocumentApi

/-- A read of the documents of a collection. -/
structure Selection where
  criteria : Criteria
  projection : Projection
  sort : SortSpec
  /-- How many documents of the sorted list are passed over. -/
  skip : Option Nat
  /-- How many documents are returned at most. -/
  limit : Option Nat
  deriving Inhabited

namespace Selection

/-- The part of a list between the bounds. -/
def slice {α : Type} (selection : Selection) (items : List α) : List α :=
  let rest := items.drop (selection.skip.getD 0)
  match selection.limit with
  | some limit => rest.take limit
  | none => rest

end Selection

end DocumentApi
