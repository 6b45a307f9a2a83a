import DocumentApi.Criteria.Interpretation
import DocumentApi.Projection
import DocumentApi.SortSpec

/-!
# Queries as documents

Document databases take queries as documents. Criteria become one filter document with an entry for
every leaf under its dotted path; a projection gives each of its fields the integer 1, and a sort
specification gives each of its fields 1 or -1.
-/

namespace DocumentApi

namespace Criteria

/-- Inserts the entries of filter documents into one document, from left to right. -/
def mergeFilters (filters : List Document) : Document :=
  Fields.ofPairs filters.flatten

/-- The entry of a filter document for each kind of question. -/
def filterMeaning : Interpretation Id Document where
  null path := [(path, .null)]
  undefined path := [(path, .document [("$exists", .bool false)])]
  equals path value := [(path, value)]
  pattern path text := [(path, .document [("$regex", .string text), ("$options", .string "i")])]
  all := mergeFilters

/-- The filter document of criteria. -/
def toFilter (criteria : Criteria) : Document :=
  filterMeaning.ofLeaves criteria

/-- The filter document of criteria that stand below a path. -/
def toFilterAt (path : String) (criteria : Criteria) : Document :=
  filterMeaning.meaningAt path (.nested criteria)

end Criteria

/-- The projection as a document; `none` for whole documents. -/
def Projection.toDocument? (projection : Projection) : Option Document :=
  if projection.isWhole then none else some projection.toDocument

/-- The number that stands for a direction. -/
def SortDirection.toBson : SortDirection → Bson
  | .ascending => .int32 1
  | .descending => .int32 (-1)

/-- The sort specification as a document; `none` if there is nothing to sort by. -/
def SortSpec.toDocument? (spec : SortSpec) : Option Document :=
  match spec.keys with
  | [] => none
  | keys => some (Fields.ofPairs (keys.map fun key => (key.field, key.direction.toBson)))

end DocumentApi
