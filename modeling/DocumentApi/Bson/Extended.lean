import DocumentApi.Bson
import DocumentApi.Calendar
import DocumentApi.Json
import DocumentApi.Text.Base64

/-!
# Extended JSON

JSON has no form of its own for most stored types. Extended JSON writes them as objects with names
that start with a dollar sign.

* `Bson.ofJson` turns a JSON value into a stored one: integers become 64-bit integers, other numbers
  doubles, and every object that is, after its own parts have been turned, exactly one of the shapes
  of `Bson.ofExtended?` becomes the value that it writes;
* `Bson.toJson?` turns a stored value into JSON, with such objects for the types that JSON lacks.
-/

namespace DocumentApi.Bson

/-- Why a JSON value has no stored form. -/
inductive ConversionError where
  /-- An integer above the range of 64-bit integers with a sign. -/
  | tooLarge (value : Int)
  deriving DecidableEq

/-- The text of a conversion failure. -/
def ConversionError.message : ConversionError → String
  | .tooLarge value => "BSON error. Kind: Unsigned integer " ++ toString value ++
      " cannot fit into BSON."

/-! ### Parts of the shapes -/

/-- The text that a value is, if it is one. -/
def string? : Bson → Option String
  | .string text => some text
  | _ => none

/-- The fields of a document. -/
def document? : Bson → Option Document
  | .document fields => some fields
  | _ => none

/-- A signed integer of 32 bits. -/
def readInt32? (text : String) : Option Int32 :=
  (Numeral.readIntBetween? Int32.minValue.toInt Int32.maxValue.toInt text.toList).map Int32.ofInt

/-- A double: a decimal numeral or a word for infinity or NaN. -/
def readDouble? (text : String) : Option Binary64 :=
  Numeral.readReal? text.toList

/-- The seconds and increment of a timestamp: both 32-bit integers, whose bits are taken as they
are, or both 64-bit integers that fit 32 bits without a sign. -/
def timestampOf? (fields : Document) : Option Bson :=
  match Fields.get? fields "t", Fields.get? fields "i" with
  | some (.int32 t), some (.int32 i) => some (.timestamp t.toUInt32 i.toUInt32)
  | some (.int64 t), some (.int64 i) =>
    let fits (n : Int64) : Bool := 0 ≤ n.toInt && n.toInt < UInt32.size
    if fits t && fits i then
      some (.timestamp (UInt32.ofNat t.toInt.toNat) (UInt32.ofNat i.toInt.toNat))
    else none
  | _, _ => none

/-- Bytes in Base64 with a subtype of two hexadecimal digits. -/
def binaryOf? (fields : Document) : Option Bson := do
  let bytes ← Text.Base64.decode? (← (← Fields.get? fields "base64").string?).toList
  let subtype := (← (← Fields.get? fields "subType").string?).toList
  if subtype.length = 2 then some (.binary (UInt8.ofNat (← Text.Hex.value? subtype)) bytes)
  else none

/-- Whether a text holds the character NUL. -/
def hasNul (text : String) : Bool :=
  text.toList.any (·.toNat == 0)

/-- A pattern with its options in order. -/
def regexOf? (fields : Document) : Option Bson := do
  let pattern ← (← Fields.get? fields "pattern").string?
  let options ← (← Fields.get? fields "options").string?
  if hasNul pattern || hasNul options then none
  else some (.regex pattern (String.ofList (options.toList.mergeSort (·.toNat ≤ ·.toNat))))

/-- A pointer into another collection. -/
def dbPointerOf? (fields : Document) : Option Bson := do
  let collection ← (← Fields.get? fields "$ref").string?
  let id ← (← Fields.get? fields "$id").objectId?
  some (.dbPointer collection id)

/-- Whether a value is the integer one. -/
def isOne : Bson → Bool
  | .int32 n => n == 1
  | .int64 n => n == 1
  | _ => false

/-- An instant: milliseconds or a text of RFC 3339. -/
def dateOf? : Bson → Option Bson
  | .int64 millis => some (.date millis)
  | .string text => (Calendar.readRfc3339? text).map fun millis => .date (Int64.ofInt millis)
  | _ => none

/-- The value that an object with a single field writes, if it has one of the shapes. -/
def ofWrapper? (name : String) (value : Bson) : Option Bson :=
  match name with
  | "$oid" => value.string?.bind fun hex => (ObjectId.ofHex? hex).map .objectId
  | "$symbol" => value.string?.map .symbol
  | "$numberInt" => value.string?.bind fun text => (readInt32? text).map .int32
  | "$numberLong" => value.string?.bind fun text => (Numeral.readInt64? text).map .int64
  | "$numberDouble" => value.string?.bind fun text => (readDouble? text).map .double
  | "$numberDecimal" => value.string?.bind fun text => (Decimal128.read? text).map .decimal128
  | "$binary" => value.document?.bind binaryOf?
  | "$code" => value.string?.map .code
  | "$timestamp" => value.document?.bind timestampOf?
  | "$regularExpression" => value.document?.bind regexOf?
  | "$dbPointer" => value.document?.bind dbPointerOf?
  | "$date" => dateOf? value
  | "$minKey" => if value.isOne then some .minKey else none
  | "$maxKey" => if value.isOne then some .maxKey else none
  | "$undefined" => match value with
    | .bool true => some .undefined
    | _ => none
  | _ => none

/-- The value that an object writes, if it is exactly one of the shapes. -/
def ofExtended? (fields : Document) : Option Bson :=
  match fields with
  | [(name, value)] => ofWrapper? name value
  | [_, _] => do
    let source ← (← Fields.get? fields "$code").string?
    let scope ← (← Fields.get? fields "$scope").document?
    some (.codeWithScope source scope)
  | _ => none

/-! ### From JSON -/

mutual

/-- The stored form of a JSON value; the inner parts of an object are turned before the object
itself. -/
def ofJson : Json → Except ConversionError Bson
  | .null => .ok .null
  | .bool value => .ok (.bool value)
  | .int value =>
    if Int64.maxValue.toInt < value then .error (.tooLarge value)
    else .ok (.int64 (Int64.ofInt value))
  | .float value => .ok (.double value)
  | .str text => .ok (.string text)
  | .arr items => (itemsOfJson items).map .array
  -- An object inside may write a value, and is then no object to the one around it.
  | .obj fields => (fieldsOfJson fields).map fun fields =>
      (ofExtended? fields).getD (.document fields)

/-- The stored forms of the items of an array, up to the first that has none. -/
def itemsOfJson : List Json → Except ConversionError (List Bson)
  | [] => .ok []
  | item :: rest => do
    let item ← ofJson item
    let rest ← itemsOfJson rest
    return item :: rest

/-- The stored forms of the fields of an object, up to the first that has none. -/
def fieldsOfJson : List (String × Json) → Except ConversionError (List (String × Bson))
  | [] => .ok []
  | (name, value) :: rest => do
    let value ← ofJson value
    let rest ← fieldsOfJson rest
    return (name, value) :: rest

end

/-! ### To JSON -/

/-- An object with a single field. -/
def wrap (name : String) (value : Json) : Json :=
  .obj [(name, value)]

/-- An instant as extended JSON: RFC 3339 from 1970 to the end of 9999, else its milliseconds. -/
def dateToJson (millis : Int) : Json :=
  -- Instants before 1970 are shown as numbers, although their dates could be written.
  if 0 ≤ millis ∧ (Calendar.Date.ofDays (millis / Calendar.millisPerDay)).year ≤ 9999 then
    wrap "$date" (.str (Calendar.Instant.rfc3339Short millis))
  else wrap "$date" (wrap "$numberLong" (.str (toString millis)))

mutual

/-- The JSON form of a stored value; `none` for plain bytes, which have none. -/
def toJson? : Bson → Option Json
  | .null => some .null
  | .undefined => some (wrap "$undefined" (.bool true))
  | .bool value => some (.bool value)
  | .int32 value => some (.int value.toInt)
  | .int64 value => some (.int value.toInt)
  | .double value => some (Json.ofBinary64 value)
  | .decimal128 value => some (wrap "$numberDecimal" (.str value.write))
  | .string text => some (.str text)
  | .symbol name => some (wrap "$symbol" (.str name))
  | .objectId id => some (wrap "$oid" (.str id.toHex))
  | .date millis => some (dateToJson millis.toInt)
  | .timestamp seconds increment =>
    some (wrap "$timestamp" (.obj [("t", .int seconds.toNat), ("i", .int increment.toNat)]))
  | .regex pattern options => some (wrap "$regularExpression"
      (.obj [("pattern", .str pattern), ("options", .str options)]))
  | .binary subtype bytes =>
    if subtype = 0 then none
    else some (wrap "$binary" (.obj [
      ("base64", .str (String.ofList (Text.Base64.encode bytes))),
      ("subType", .str (String.ofList (Text.Hex.fixed 2 subtype.toNat)))]))
  | .code source => some (wrap "$code" (.str source))
  | .codeWithScope source scope => (fieldsToJson? scope).map fun scope =>
      .obj [("$code", .str source), ("$scope", .obj scope)]
  | .dbPointer collection id => some (wrap "$dbPointer"
      (.obj [("$ref", .str collection), ("$id", wrap "$oid" (.str id.toHex))]))
  | .minKey => some (wrap "$minKey" (.int 1))
  | .maxKey => some (wrap "$maxKey" (.int 1))
  | .array items => (itemsToJson? items).map .arr
  | .document fields => (fieldsToJson? fields).map .obj

/-- The JSON forms of the items of an array. -/
def itemsToJson? : List Bson → Option (List Json)
  | [] => some []
  | item :: rest => do
    let item ← toJson? item
    let rest ← itemsToJson? rest
    return item :: rest

/-- The JSON forms of the fields of a document. -/
def fieldsToJson? : List (String × Bson) → Option (List (String × Json))
  | [] => some []
  | (name, value) :: rest => do
    let value ← toJson? value
    let rest ← fieldsToJson? rest
    return (name, value) :: rest

end

end DocumentApi.Bson
