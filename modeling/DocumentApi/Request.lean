import DocumentApi.Json

/-!
# Requests

A request has a method, headers, the parameters of its query string and of its path, and perhaps a
JSON body. Header names are tokens without regard to case; a header whose name or value is malformed
is not kept.
-/

namespace DocumentApi

/-- A request on a collection. -/
structure Request where
  method : String
  /-- Header values by lower-case name. -/
  headers : Fields String
  /-- The decoded parameters of the query string. -/
  query : Fields String
  /-- The parameters of the path. -/
  params : Fields String
  body : Option Json
  deriving Inhabited

namespace Request

/-- A request with nothing but a method. -/
def ofMethod (method : String) : Request :=
  ⟨method, [], [], [], none⟩

/-- Whether `c` may stand in the name of a header. -/
def isTokenChar (c : Char) : Bool :=
  ('a' ≤ c && c ≤ 'z') || ('A' ≤ c && c ≤ 'Z') || ('0' ≤ c && c ≤ '9') ||
    ['!', '#', '$', '%', '&', '\'', '*', '+', '-', '.', '^', '_', '\x60', '|', '~'].contains c

/-- The greatest length of the name of a header. -/
def longestHeaderName : Nat := 65535

/-- The form under which a header name is kept, if it is well-formed. -/
def headerName? (name : String) : Option String :=
  let cs := name.toList
  if !cs.isEmpty && cs.all isTokenChar && cs.length ≤ longestHeaderName then
    some (String.ofList (cs.map Char.toLower))
  else none

/-- Whether `c` may stand in the value of a header: all characters but controls, and the tab. -/
def isHeaderChar (c : Char) : Bool :=
  (32 ≤ c.toNat && c.toNat ≠ 127) || c == '\t'

/-- Whether `c` can be read from the value of a header: ASCII without controls, and the tab. -/
def isVisibleChar (c : Char) : Bool :=
  (32 ≤ c.toNat && c.toNat < 127) || c == '\t'

/-- Sets a header, in place of an earlier value; a malformed one is skipped. -/
def withHeader (request : Request) (name value : String) : Request :=
  match headerName? name with
  | some key =>
    if value.toList.all isHeaderChar then
      { request with headers := Fields.insert request.headers key value }
    else request
  | none => request

/-- The media type of JSON. -/
def jsonMediaType : String := "application/json"

/-- Declares the body to be JSON. -/
def withJsonContent (request : Request) : Request :=
  request.withHeader "content-type" jsonMediaType

/-- Sets a parameter of the query string. -/
def withQuery (request : Request) (name value : String) : Request :=
  { request with query := Fields.insert request.query name value }

/-- Sets a parameter of the path. -/
def withParam (request : Request) (name value : String) : Request :=
  { request with params := Fields.insert request.params name value }

/-- Sets the body. -/
def withBody (request : Request) (body : Json) : Request :=
  { request with body := some body }

/-- The value of a header, if it can be read as text. -/
def header? (request : Request) (name : String) : Option String :=
  ((headerName? name).bind (Fields.get? request.headers)).filter fun value =>
    value.toList.all isVisibleChar

/-- A parameter of the query string. -/
def queryParam? (request : Request) (name : String) : Option String :=
  Fields.get? request.query name

/-- A parameter of the path that is not empty. -/
def param? (request : Request) (name : String) : Option String :=
  (Fields.get? request.params name).filter (· ≠ "")

end Request

end DocumentApi
