import DocumentApi.Bson
import DocumentApi.SortSpec

/-!
# Comparing stored values

Queries and sorts see stored values through a coarser view, in which all numbers are binary64 and
the types that are neither compared nor ordered are the same as null.

* `Comparable.same` is the equality that queries use;
* `Comparable.compare` is the order that sorts use: first by type, then by value, where values of
  one type that have no order tie.
-/

namespace DocumentApi

/-- A stored value as queries and sorts see it. -/
inductive Comparable where
  | null
  | number (value : Binary64)
  | string (text : String)
  | map (fields : List (String × Comparable))
  | array (items : List Comparable)
  | objectId (id : ObjectId)
  | bool (value : Bool)
  | date (millis : Int64)
  deriving Inhabited

namespace Bson

mutual

/-- The view of a stored value. -/
def comparable : Bson → Comparable
  | .bool value => .bool value
  | .int32 value => .number (Binary64.ofInt value.toInt)
  | .int64 value => .number (Binary64.ofInt value.toInt)
  | .double value => .number value
  | .date millis => .date millis
  | .objectId id => .objectId id
  | .string text => .string text
  | .array items => .array (comparableItems items)
  | .document fields => .map (comparableFields fields)
  | _ => .null

/-- The views of the items of an array. -/
def comparableItems : List Bson → List Comparable
  | [] => []
  | item :: rest => comparable item :: comparableItems rest

/-- The views of the fields of a document. -/
def comparableFields : List (String × Bson) → List (String × Comparable)
  | [] => []
  | (name, value) :: rest => (name, comparable value) :: comparableFields rest

end

end Bson

namespace Comparable

mutual

/-- Whether two values are equal to a query; the order of fields does not matter. -/
def same : Comparable → Comparable → Bool
  | .null, .null => true
  | .number a, .number b => a.sameValue b
  | .string a, .string b => a == b
  | .map fields, .map fields' => fields.length == fields'.length && sameFields fields fields'
  | .array items, .array items' => sameItems items items'
  | .objectId a, .objectId b => a = b
  | .bool a, .bool b => a == b
  | .date a, .date b => a == b
  | _, _ => false

/-- Whether two lists have equal items. -/
def sameItems : List Comparable → List Comparable → Bool
  | [], [] => true
  | a :: rest, b :: rest' => same a b && sameItems rest rest'
  | _, _ => false

/-- Whether every field of the first list has an equal value in the second one. -/
def sameFields : List (String × Comparable) → List (String × Comparable) → Bool
  | [], _ => true
  | (name, value) :: rest, other =>
    (match Fields.get? other name with
      | some value' => same value value'
      | none => false) && sameFields rest other

end

/-- The place of a type in the order of types. -/
def typeRank : Comparable → Nat
  | .null => 0
  | .number _ => 1
  | .string _ => 2
  | .map _ => 3
  | .array _ => 4
  | .objectId _ => 5
  | .bool _ => 6
  | .date _ => 7

/-- The order of two values of one type, if the type has one. Texts are ordered by their
characters. -/
def valueOrder? : Comparable → Comparable → Option Ordering
  | .null, .null => some .eq
  | .number a, .number b => a.compare? b
  | .string a, .string b => some (compareOfLessAndEq a b)
  | .objectId a, .objectId b => some (Ord.compare a.val b.val)
  | .bool a, .bool b => some (Ord.compare a b)
  | .date a, .date b => some (Ord.compare a.toInt b.toInt)
  | _, _ => none

/-- The order of sorts: by type, then by value where there is an order. -/
def compare (a b : Comparable) : Ordering :=
  (Ord.compare a.typeRank b.typeRank).then ((valueOrder? a b).getD .eq)

/-- The order of two values in the given direction. -/
def compareToward (direction : SortDirection) (a b : Comparable) : Ordering :=
  match direction with
  | .ascending => compare a b
  | .descending => compare b a

end Comparable

end DocumentApi
