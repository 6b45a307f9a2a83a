import DocumentApi.Bson
import DocumentApi.Calendar
import DocumentApi.Number.Notation
import DocumentApi.Text.Base64

/-!
# Stored values in messages

The text of a stored value in the message of a failure, and of the types that JSON has no form for.
Texts stand in quotes without escapes.
-/

namespace DocumentApi.Bson

/-- A text in quotes, without escapes. -/
def inQuotes (text : String) : String :=
  "\"" ++ text ++ "\""

/-- The number of a binary subtype in hexadecimal. -/
def subtypeText (subtype : UInt8) : String :=
  "0x" ++ String.ofList (Nat.toDigits 16 subtype.toNat)

mutual

/-- The text of a value in a message. -/
def display : Bson → String
  | .null => "null"
  | .undefined => "undefined"
  | .bool value => if value then "true" else "false"
  | .int32 value => toString value.toInt
  | .int64 value => toString value.toInt
  | .double value => Notation64.plain.write value
  | .decimal128 value => value.write
  | .string text => inQuotes text
  | .symbol name => "Symbol(" ++ inQuotes name ++ ")"
  | .objectId id => "ObjectId(" ++ inQuotes id.toHex ++ ")"
  | .date millis => "DateTime(" ++ inQuotes (Calendar.Instant.spaced millis.toInt) ++ ")"
  | .timestamp seconds increment =>
    "Timestamp(" ++ toString seconds.toNat ++ ", " ++ toString increment.toNat ++ ")"
  | .regex pattern options => "/" ++ pattern ++ "/" ++ options
  | .binary subtype bytes =>
    "Binary(" ++ subtypeText subtype ++ ", " ++ String.ofList (Text.Base64.encode bytes) ++ ")"
  | .code source => source
  | .codeWithScope source _ => source
  | .dbPointer collection id =>
    "DbPointer(" ++ collection ++ ", " ++ id.toHex ++ ")"
  | .minKey => "MinKey"
  | .maxKey => "MaxKey"
  | .array items => "[" ++ ", ".intercalate (displayItems items) ++ "]"
  | .document fields =>
    if fields.isEmpty then "\x7b\x7d"
    else "\x7b " ++ ", ".intercalate (displayFields fields) ++ " \x7d"

/-- The texts of the items of an array. -/
def displayItems : List Bson → List String
  | [] => []
  | item :: rest => display item :: displayItems rest

/-- The texts of the fields of a document. -/
def displayFields : List (String × Bson) → List String
  | [] => []
  | (name, value) :: rest => (inQuotes name ++ ": " ++ display value) :: displayFields rest

end

end DocumentApi.Bson
