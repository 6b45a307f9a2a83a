import DocumentApi.Refusal
import DocumentApi.Request

/-!
# Checks before the store

What a write request has to satisfy before the store is touched: its content is declared to be JSON,
and its body is an object with at least one field or a list of at least one object. Empty objects in
a list are left to the schema.
-/

namespace DocumentApi.Request

/-- Whether `part` stands somewhere in `cs`. -/
def occursIn (part : List Char) : List Char → Bool
  | [] => part.isEmpty
  | c :: rest => part.isPrefixOf (c :: rest) || occursIn part rest

/-- Requires that the content type mentions JSON, in any letter case. -/
def checkContentType (request : Request) : Except Refusal Unit :=
  match request.header? "content-type" with
  | some value =>
    if occursIn jsonMediaType.toList (value.toList.map Char.toLower) then .ok ()
    else .error .invalid
  | none => .error .invalid

/-- Whether a body is an object with a field or a list of objects with an item. -/
def isAcceptable : Json → Bool
  | .obj fields => !fields.isEmpty
  | .arr items => !items.isEmpty && items.all Json.isObject
  | _ => false

/-- Requires an acceptable body. -/
def checkBody (request : Request) : Except Refusal Json :=
  match request.body with
  | some body => if isAcceptable body then .ok body else .error .invalid
  | none => .error .invalid

/-- Requires what every write has to satisfy. -/
def checkWrite (request : Request) : Except Refusal Json := do
  request.checkContentType
  request.checkBody

/-- Requires an identifier that is not empty; its absence is the given error. -/
def checkId (id : Option String) (error : Refusal) : Except Refusal String :=
  match id with
  | some text => if text = "" then .error error else .ok text
  | none => .error error

end DocumentApi.Request
