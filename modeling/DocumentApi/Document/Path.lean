import DocumentApi.Bson
import DocumentApi.Text.Split

/-!
# Dotted paths

A dotted path leads from a document to the values that it reaches: through the fields of documents,
and through arrays either to the item at a numeric segment or to that field of every item that is a
document.

* `Document.resolve` lists the values that a path reaches, in the order of the document.
-/

namespace DocumentApi

/-- The segments of a dotted path; there is at least one. -/
def segments (path : String) : List String :=
  Text.split '.' path

namespace Bson

/-- The place in an array that a segment names: digits with an optional plus, up to 64 bits. -/
def index? (segment : String) : Option Nat :=
  Numeral.readUInt64? segment

/-- The value of a field, if the value is a document that has it. -/
def field? (name : String) : Bson → Option Bson
  | .document fields => Fields.get? fields name
  | _ => none

/-- The values that one segment leads to from a value. -/
def step (segment : String) : Bson → List Bson
  | .document fields => (Fields.get? fields segment).toList
  | .array items =>
    match index? segment with
    | some index => (items[index]?).toList
    | none => items.filterMap (field? segment)
  | _ => []

/-- The values that further segments lead to from a list of values. -/
def follow (values : List Bson) (segments : List String) : List Bson :=
  segments.foldl (fun values segment => values.flatMap (step segment)) values

end Bson

namespace Document

/-- The values that a dotted path reaches. -/
def resolve (document : Document) (path : String) : List Bson :=
  match segments path with
  | [] => []
  | first :: rest => Bson.follow (Fields.get? document first).toList rest

/-- The values that a dotted path reaches, each array followed by its items. -/
def candidates (document : Document) (path : String) : List Bson :=
  (document.resolve path).flatMap fun value =>
    match value with
    | .array items => value :: items
    | _ => [value]

end Document

end DocumentApi
