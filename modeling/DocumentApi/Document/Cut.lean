import DocumentApi.Document.Update
import DocumentApi.Projection
import DocumentApi.Schema

/-!
# Cutting documents down

A projection cuts a document down to its identifier and the named fields, in the order of the
projection. A named field may be a dotted path through documents; what it does not lead to is left
out, but the documents on the way are there.
-/

namespace DocumentApi.Document

/-- Copies what stands at the end of a path from one document to another. -/
def copyAt (source target : Document) : List String → Document
  | [] => target
  | [name] =>
    match Fields.get? source name with
    | some value => Fields.insert target name value
    | none => target
  | name :: next :: rest =>
    match Fields.get? source name with
    | some (.document below) =>
      Fields.insert target name (.document (copyAt below (inner target name) (next :: rest)))
    | _ => target

/-- The identifier alone, if there is one. -/
def identifierOnly (document : Document) : Document :=
  match Fields.get? document Schema.idField with
  | some id => [(Schema.idField, id)]
  | none => []

/-- What a projection leaves of a document. -/
def cut (projection : Projection) (document : Document) : Document :=
  if projection.isWhole then document
  else projection.fields.foldl (fun target field => copyAt document target (segments field))
    document.identifierOnly

end DocumentApi.Document
