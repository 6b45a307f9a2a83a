import DocumentApi.Fields
import DocumentApi.Number.Decimal128
import DocumentApi.ObjectId

/-!
# Stored values

The values that a document store keeps. A document is a list of named values; names are distinct and
their order is kept.
-/

namespace DocumentApi

/-- A stored value. -/
inductive Bson where
  | null
  | undefined
  | bool (value : Bool)
  | int32 (value : Int32)
  | int64 (value : Int64)
  | double (value : Binary64)
  | decimal128 (value : Decimal128)
  | string (text : String)
  | symbol (name : String)
  | objectId (id : ObjectId)
  /-- An instant in milliseconds from the start of 1970. -/
  | date (millis : Int64)
  | timestamp (seconds increment : UInt32)
  | regex (pattern options : String)
  | binary (subtype : UInt8) (bytes : List UInt8)
  | code (source : String)
  | codeWithScope (source : String) (scope : List (String × Bson))
  | dbPointer (collection : String) (id : ObjectId)
  | minKey
  | maxKey
  | array (items : List Bson)
  | document (fields : List (String × Bson))
  deriving Inhabited

/-- A stored document. -/
abbrev Document := Fields Bson

namespace Bson

/-- The identifier that the value is, if it is one. -/
def objectId? : Bson → Option ObjectId
  | .objectId id => some id
  | _ => none

/-- The name of the value's type. -/
def typeName : Bson → String
  | .null => "Null"
  | .undefined => "Undefined"
  | .bool _ => "Boolean"
  | .int32 _ => "Int32"
  | .int64 _ => "Int64"
  | .double _ => "Double"
  | .decimal128 _ => "Decimal128"
  | .string _ => "String"
  | .symbol _ => "Symbol"
  | .objectId _ => "ObjectId"
  | .date _ => "DateTime"
  | .timestamp .. => "Timestamp"
  | .regex .. => "RegularExpression"
  | .binary .. => "Binary"
  | .code _ => "JavaScriptCode"
  | .codeWithScope .. => "JavaScriptCodeWithScope"
  | .dbPointer .. => "DbPointer"
  | .minKey => "MinKey"
  | .maxKey => "MaxKey"
  | .array _ => "Array"
  | .document _ => "EmbeddedDocument"

end Bson

end DocumentApi
