import DocumentApi.Bson.Extended
import DocumentApi.Error
import DocumentApi.Page
import DocumentApi.Retry
import DocumentApi.Schema

/-!
# Typed records

Callers that know the shape of their documents read them as records: a field has a name and a type,
and it is either required or has a value that it takes when it is absent. Fields that a record does
not know are passed over. Records are read from any values that are `Readable`; in JSON a record may
also be written as the array of its fields in their order.

* `BaseFields` is the record of the fields that all documents share;
* `Document.ofJson` and `Document.toJson` turn JSON objects into documents and back.
-/

namespace DocumentApi

/-- Values that the fields of a record can be read from. -/
class Readable (σ : Type) where
  isNull : σ → Bool
  bool? : σ → Option Bool
  text? : σ → Option String
  int? : σ → Option Int
  /-- The fields of a record, whose names are given in order. -/
  fields? : List String → σ → Option (Fields σ)

instance : Readable Json where
  isNull
    | .null => true
    | _ => false
  bool?
    | .bool value => some value
    | _ => none
  text?
    | .str text => some text
    | _ => none
  int?
    | .int value => some value
    | _ => none
  fields? names
    | .obj fields => some fields
    | .arr items => if items.length ≤ names.length then some (names.zip items) else none
    | _ => none

instance : Readable Bson where
  isNull
    | .null => true
    | _ => false
  bool?
    | .bool value => some value
    | _ => none
  text?
    | .string text => some text
    | _ => none
  int?
    | .int32 value => some value.toInt
    | .int64 value => some value.toInt
    | _ => none
  fields? _
    | .document fields => some fields
    | _ => none

namespace Record

variable {σ α : Type}

/-- A field that has to be there. -/
def required (read : σ → Option α) (fields : Fields σ) (name : String) : Option α :=
  (Fields.get? fields name).bind read

/-- A field that takes the value `absent` if it is not there. -/
def optional (read : σ → Option α) (absent : α) (fields : Fields σ) (name : String) : Option α :=
  match Fields.get? fields name with
  | some value => read value
  | none => some absent

variable [Readable σ]

/-- Null, or what else is read. -/
def nullable (read : σ → Option α) (value : σ) : Option (Option α) :=
  if Readable.isNull value then some none else (read value).map some

/-- An integer from `least` up to `most`. -/
def between (least most : Int) (value : σ) : Option Int :=
  (Readable.int? value).filter fun n => least ≤ n && n ≤ most

/-- An integer of 32 bits without a sign. -/
def uint32? (value : σ) : Option UInt32 :=
  (between 0 (UInt32.size - 1) value).map fun n => UInt32.ofNat n.toNat

/-- An integer of 64 bits without a sign. -/
def uint64? (value : σ) : Option UInt64 :=
  (between 0 (UInt64.size - 1) value).map fun n => UInt64.ofNat n.toNat

/-- An integer of 64 bits with a sign. -/
def int64? (value : σ) : Option Int64 :=
  (between Int64.minValue.toInt Int64.maxValue.toInt value).map Int64.ofInt

/-- Reads a record, whose field names are given in order, by way of its fields. -/
def read (names : List String) (ofFields : Fields σ → Option α) (value : σ) : Option α :=
  (Readable.fields? names value).bind ofFields

end Record

/-- The fields that all documents share, as callers see them. -/
structure BaseFields where
  /-- The identifier in hexadecimal digits; a document that was not inserted has none. -/
  id : Option String
  isActive : Bool
  deriving DecidableEq

namespace BaseFields

/-- The fields of a document that was not inserted. -/
def initial : BaseFields := ⟨none, true⟩

instance : Inhabited BaseFields := ⟨initial⟩

variable {σ : Type} [Readable σ]

/-- Reads the shared fields among others. -/
def ofFields? (fields : Fields σ) : Option BaseFields := do
  let id ← Record.optional (Record.nullable Readable.text?) none fields Schema.idField
  let isActive ← Record.optional Readable.bool? true fields Schema.activeField
  some ⟨id, isActive⟩

/-- Reads the shared fields by themselves. -/
def ofValue? (value : σ) : Option BaseFields :=
  Record.read [Schema.idField, Schema.activeField] ofFields? value

/-- The shared fields at the start of a document; an absent identifier is left out. -/
def toDocument (base : BaseFields) : Document :=
  (base.id.map fun id => (Schema.idField, Bson.string id)).toList ++
    [(Schema.activeField, .bool base.isActive)]

end BaseFields

namespace Document

/-- The failure for a value that is no document. -/
def notADocument (value : Bson) : StoreError :=
  .invalidDocument ("expected a document, got " ++ value.typeName)

/-- The document that a JSON value stands for. -/
def ofJson (value : Json) : Except StoreError Document :=
  match Bson.ofJson value with
  | .error cause => .error (.serialization cause.message)
  | .ok (.document fields) => .ok fields
  | .ok other => .error (notADocument other)

/-- The JSON object that a document is, with extended JSON for the types that JSON lacks. -/
def toJson (document : Document) : Except StoreError Json :=
  match (Bson.document document).toJson? with
  | some value => .ok value
  | none => .error (.serialization "bytes have no form in JSON")

end Document

namespace Envelope

/-- The items of an array. -/
def items? : Json → Option (List Json)
  | .arr items => some items
  | _ => none

/-- Reads the parts of an envelope of JSON values, none of which may be absent. -/
def ofFields? (fields : Fields Json) : Option (Envelope Json) := do
  let data ← Record.required items? fields "data"
  let hasMore ← Record.required Readable.bool? fields "hasMore"
  let totalCount ← Record.required Record.uint64? fields "totalCount"
  some ⟨data, hasMore, totalCount.toNat⟩

/-- Reads an envelope of JSON values. -/
def ofJson? (value : Json) : Option (Envelope Json) :=
  Record.read ["data", "hasMore", "totalCount"] ofFields? value

end Envelope

namespace RetryPolicy

variable {σ : Type} [Readable σ]

/-- Reads the parts of a policy; absent ones are those of the standard policy. -/
def ofFields? (fields : Fields σ) : Option RetryPolicy := do
  let maxAttempts ← Record.optional Record.uint32? standard.maxAttempts fields "max_attempts"
  let delayMillis ← Record.optional Record.uint64? standard.delayMillis fields "delay_ms"
  some ⟨maxAttempts, delayMillis⟩

/-- Reads a policy. -/
def ofValue? (value : σ) : Option RetryPolicy :=
  Record.read ["max_attempts", "delay_ms"] ofFields? value

end RetryPolicy

end DocumentApi
