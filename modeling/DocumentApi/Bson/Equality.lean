import DocumentApi.Bson

/-!
# Equality of stored values

Two stored values are the same for a unique index if they have the same type and the same value.
Integers and doubles of equal value differ, the two zeros of a double are the same and NaN differs
from itself; arrays are compared item by item, and documents are the same whatever the order of
their fields.
-/

namespace DocumentApi.Bson

mutual

/-- Whether two values are the same. -/
def same : Bson → Bson → Bool
  | .null, .null => true
  | .undefined, .undefined => true
  | .bool a, .bool b => a == b
  | .int32 a, .int32 b => a == b
  | .int64 a, .int64 b => a == b
  | .double a, .double b => a.sameValue b
  | .decimal128 a, .decimal128 b => a = b
  | .string a, .string b => a == b
  | .symbol a, .symbol b => a == b
  | .objectId a, .objectId b => a = b
  | .date a, .date b => a == b
  | .timestamp s i, .timestamp s' i' => s == s' && i == i'
  | .regex p o, .regex p' o' => p == p' && o == o'
  | .binary s bytes, .binary s' bytes' => s == s' && bytes == bytes'
  | .code a, .code b => a == b
  | .codeWithScope a scope, .codeWithScope b scope' =>
    a == b && scope.length == scope'.length && sameFields scope scope'
  | .dbPointer c id, .dbPointer c' id' => c == c' && id = id'
  | .minKey, .minKey => true
  | .maxKey, .maxKey => true
  | .array items, .array items' => sameItems items items'
  | .document fields, .document fields' =>
    fields.length == fields'.length && sameFields fields fields'
  | _, _ => false

/-- Whether two lists have the same items. -/
def sameItems : List Bson → List Bson → Bool
  | [], [] => true
  | a :: rest, b :: rest' => same a b && sameItems rest rest'
  | _, _ => false

/-- Whether every field of the first document has the same value in the second one. -/
def sameFields : List (String × Bson) → List (String × Bson) → Bool
  | [], _ => true
  | (name, value) :: rest, other =>
    (match Fields.get? other name with
      | some value' => same value value'
      | none => false) && sameFields rest other

end

end DocumentApi.Bson
