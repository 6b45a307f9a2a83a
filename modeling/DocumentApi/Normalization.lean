import DocumentApi.Bson.Display
import DocumentApi.Json
import DocumentApi.Page
import DocumentApi.Schema

/-!
# Documents in responses

Responses show identifiers as texts of 24 hexadecimal digits and dates as texts of RFC 3339; the
version key is left out at every depth. Types that JSON has no form for are shown by their text.
-/

namespace DocumentApi

namespace Bson

mutual

/-- The form of a value in a response. -/
def normalize : Bson → Json
  | .null => .null
  | .undefined => .null
  | .bool value => .bool value
  | .int32 value => .int value.toInt
  | .int64 value => .int value.toInt
  | .double value => Json.ofBinary64 value
  | .string text => .str text
  | .objectId id => .str id.toHex
  | .date millis => .str (Calendar.Instant.rfc3339Millis millis.toInt)
  | .array items => .arr (normalizeItems items)
  | .document fields => .obj (normalizeFields fields)
  | other => .str other.display

/-- The forms of the items of an array. -/
def normalizeItems : List Bson → List Json
  | [] => []
  | item :: rest => normalize item :: normalizeItems rest

/-- The forms of the fields of a document, without the version key. -/
def normalizeFields : List (String × Bson) → List (String × Json)
  | [] => []
  | (name, value) :: rest =>
    if name = Schema.versionField then normalizeFields rest
    else (name, normalize value) :: normalizeFields rest

end

end Bson

/-- The form of a document in a response. -/
def Document.normalize (document : Document) : Json :=
  .obj (Bson.normalizeFields document)

/-- An envelope as a JSON object. -/
def Envelope.toJson (envelope : Envelope Json) : Json :=
  .obj [("data", .arr envelope.data), ("hasMore", .bool envelope.hasMore),
    ("totalCount", .int envelope.totalCount)]

/-- The form of a list of documents in a response. -/
def Envelope.normalize (envelope : Envelope Document) : Json :=
  (envelope.map Document.normalize).toJson

end DocumentApi
