import DocumentApi.Fields
import DocumentApi.Number.Binary64

/-!
# JSON values

A JSON value tells integers from other numbers and keeps the order of the fields of an object.
-/

namespace DocumentApi

/-- A JSON value. -/
inductive Json where
  | null
  | bool (value : Bool)
  | int (value : Int)
  | float (value : Binary64)
  | str (text : String)
  | arr (items : List Json)
  | obj (fields : List (String × Json))
  deriving Inhabited

namespace Json

/-- The fields of an object. -/
def object? : Json → Option (Fields Json)
  | .obj fields => some fields
  | _ => none

/-- Whether the value is an object. -/
def isObject (value : Json) : Bool :=
  value.object?.isSome

/-- A number that is no integer, where numbers that are not finite become null. -/
def ofBinary64 (x : Binary64) : Json :=
  if x.isFinite then .float x else .null

end Json

end DocumentApi
