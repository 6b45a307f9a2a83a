import DocumentApi.Bson.Extended
import DocumentApi.Error
import DocumentApi.Json.Writer
import DocumentApi.Schema

/-!
# Preparing bodies

A request body becomes a document to insert, or a list of changes to a stored document, under the
rules of a schema: the identifier and the reference fields hold identifiers, absent fields take the
value that they start with, and required fields are neither absent nor null nor the empty text.

* `Schema.newDocument` gives a document to insert, `Schema.changes` the changes;
* `BodyError` says why a body is refused; what is met first wins, the identifier before the other
  fields of the body in their order and required fields last.
-/

namespace DocumentApi

/-- Why a body is refused. -/
inductive BodyError where
  /-- The value of the identifier or of a reference, shown as `value`, is no identifier. -/
  | notAnId (path value : String)
  /-- The value of a field has no stored form. -/
  | notStorable (cause : Bson.ConversionError)
  /-- Required fields are blank. -/
  | blank (paths : List String)
  deriving DecidableEq

namespace BodyError

/-- The text for one blank field. -/
def blankReason (path : String) : String :=
  path ++ ": Path `" ++ path ++ "` is required."

/-- The failure of the store that a refused body of `collection` stands for. -/
def toStoreError (collection : String) : BodyError → StoreError
  | .notAnId path value => .validation (collection ++ " validation failed: " ++ path ++
      ": Cast to ObjectId failed for value \"" ++ value ++ "\" at path \"" ++ path ++ "\"")
  | .notStorable cause => .serialization cause.message
  | .blank paths => .validation (collection ++ " validation failed: " ++
      ", ".intercalate (paths.map blankReason))

end BodyError

/-- Reads an identifier. -/
def ObjectId.read (text : String) : Except StoreError ObjectId :=
  match ObjectId.ofHex? text with
  | some id => .ok id
  | none => .error (.invalidId text)

namespace Schema

/-- A JSON value as a failure shows it: a text as it is, any other value in its compact form. -/
def shown : Json → String
  | .str text => text
  | value => value.write

/-- The identifier that a value at `path` writes. -/
def readId (path : String) (value : Json) : Except BodyError ObjectId :=
  match value with
  | .str text =>
    match ObjectId.ofHex? text with
    | some id => .ok id
    | none => .error (.notAnId path text)
  | other => .error (.notAnId path (shown other))

/-- One reference: null or an identifier. -/
def readReference (path : String) (value : Json) : Except BodyError Bson :=
  match value with
  | .null => .ok .null
  | other => (readId path other).map .objectId

/-- References, one after another. -/
def readReferences (path : String) : List Json → Except BodyError (List Bson)
  | [] => .ok []
  | item :: rest => do
    let item ← readReference path item
    let rest ← readReferences path rest
    return item :: rest

/-- The stored form of a field of a body: references or a list of them for a reference field, the
value itself for any other. -/
def readField (schema : Schema) (name : String) (value : Json) : Except BodyError Bson :=
  -- What is no reference is read as extended JSON.
  if (schema.reference? name).isNone then (Bson.ofJson value).mapError .notStorable
  else match value with
    | .arr items => (readReferences name items).map .array
    | other => readReference name other

/-- The stored forms of the fields of a body other than the identifier, in their order. -/
def readFields (schema : Schema) : List (String × Json) → Except BodyError (List (String × Bson))
  | [] => .ok []
  | (name, value) :: rest =>
    -- The identifier is read by itself, since null stands for a fresh one there.
    if name = idField then readFields schema rest
    else do
      let value ← readField schema name value
      let rest ← readFields schema rest
      return (name, value) :: rest

/-- The identifier of a document to insert: the given one, or `fresh` if none is given. -/
def identifier (fresh : ObjectId) (body : Fields Json) : Except BodyError ObjectId :=
  match Fields.get? body idField with
  | none | some .null => .ok fresh
  | some value => readId idField value

/-- Gives a field that is absent from the document the value that it starts with. -/
def fillField (document : Document) (field : Field) : Document :=
  match field.initial with
  | some value =>
    if Fields.contains document field.name then document
    else Fields.insert document field.name value
  | none => document

/-- Gives every declared field that is absent the value that it starts with. -/
def fillFields (schema : Schema) (document : Document) : Document :=
  schema.fields.foldl fillField document

/-- Whether there is no value, or it is null or the empty text. -/
def isBlank : Option Bson → Bool
  | none | some .null => true
  | some (.string text) => text == ""
  | _ => false

/-- The required fields that are blank in a document, in order of declaration. -/
def blankFields (schema : Schema) (document : Document) : List String :=
  (schema.fields.filter fun field =>
    field.required && isBlank (Fields.get? document field.name)).map (·.name)

/-- The document to insert for a body, which takes the identifier `fresh` if it gives none. -/
def newDocument (schema : Schema) (fresh : ObjectId) (body : Fields Json) :
    Except BodyError Document := do
  let id ← identifier fresh body
  -- The identifier comes first, and what starts with a value last.
  let fields ← readFields schema body
  let document := schema.fillFields (Fields.ofPairs ((idField, .objectId id) :: fields))
  -- Only now is it known which required fields are blank.
  match schema.blankFields document with
  | [] => return document
  | paths => throw (.blank paths)

/-- The changes that a body makes to a stored document; the identifier never changes. -/
def changes (schema : Schema) (body : Fields Json) : Except BodyError (Fields Bson) :=
  (schema.readFields body).map Fields.ofPairs

end Schema

end DocumentApi
