import DocumentApi.Bson

/-!
# Schemas

A schema names a collection and declares the fields that the store cares about: which ones are
required, which carry a unique index, which refer to documents of another collection and which have
a value to start with. Every schema declares the flag `isActive`, which starts as true.
-/

namespace DocumentApi

/-- A declared field, where `σ` is what a reference refers to. -/
structure FieldOf (σ : Type) where
  name : String
  required : Bool := false
  unique : Bool := false
  target : Option σ := none
  initial : Option Bson := none

/-- A collection with its declared fields. -/
structure Schema where
  collection : String
  fields : List (FieldOf Schema)

/-- A declared field of a schema. -/
abbrev Field := FieldOf Schema

namespace Schema

/-- The name of the identifier of a document. -/
def idField : String := "_id"

/-- The name of the flag that is false for a deactivated document. -/
def activeField : String := "isActive"

/-- The name of the version key of a document, which responses do not show. -/
def versionField : String := "__v"

/-- The flag that every schema declares. -/
def activeFlag : Field := { name := activeField, initial := some (.bool true) }

/-- Declares a field after the others; a declaration of the same name gives place to it. -/
def declare (fields : List Field) (field : Field) : List Field :=
  fields.filter (·.name ≠ field.name) ++ [field]

/-- The schema of a collection with the given fields beside the flag that all schemas declare. -/
def ofFields (collection : String) (fields : List Field) : Schema :=
  ⟨collection, fields.foldl declare [activeFlag]⟩

/-- The declaration of a field. -/
def field? (schema : Schema) (name : String) : Option Field :=
  schema.fields.find? (·.name == name)

/-- The schema that a field refers to, if it is a reference. -/
def reference? (schema : Schema) (name : String) : Option Schema :=
  (schema.field? name).bind (·.target)

/-- The names of the fields that carry a unique index. -/
def uniqueFields (schema : Schema) : List String :=
  (schema.fields.filter (·.unique)).map (·.name)

end Schema

end DocumentApi
