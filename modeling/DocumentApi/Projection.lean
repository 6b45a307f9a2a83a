import DocumentApi.Bson
import DocumentApi.Text.Blank
import DocumentApi.Text.Split

/-!
# Projections

A projection names the fields that a read returns. No names at all stand for whole documents. The
identifier is returned in any case, so it need not be named.

* `Projection.ofNames` trims the names and drops blank and repeated ones.
-/

namespace DocumentApi

/-- The names of the fields to return, in order. -/
structure Projection where
  fields : List String
  deriving DecidableEq, Inhabited

namespace Projection

/-- The projection that returns whole documents. -/
def whole : Projection := ⟨[]⟩

/-- Whether whole documents are returned. -/
def isWhole (projection : Projection) : Bool :=
  projection.fields.isEmpty

/-- Whether a field is named. -/
def contains (projection : Projection) (field : String) : Bool :=
  projection.fields.contains field

/-- Adds a name after the others, unless it is blank or there already. -/
def add (projection : Projection) (name : String) : Projection :=
  let field := Text.trim name
  if field = "" ∨ projection.contains field then projection
  else ⟨projection.fields ++ [field]⟩

/-- The projection that names the given fields. -/
def ofNames (names : List String) : Projection :=
  names.foldl add whole

/-- Reads a list of names with commas between them. -/
def parse (text : String) : Projection :=
  ofNames (Text.split ',' text)

/-- The projection as a document that gives every named field the integer 1. -/
def toDocument (projection : Projection) : Document :=
  Fields.ofPairs (projection.fields.map fun field => (field, .int32 1))

end Projection

end DocumentApi
