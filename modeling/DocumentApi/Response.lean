import DocumentApi.Json
import DocumentApi.Status

/-!
# Responses

A response is a status and perhaps a JSON body.
-/

namespace DocumentApi

/-- The answer to a request. -/
structure Response where
  status : Status
  body : Option Json
  deriving Inhabited

namespace Response

/-- A response without a body. -/
def bare (status : Status) : Response := ⟨status, none⟩

/-- A response with a body. -/
def withBody (status : Status) (body : Json) : Response := ⟨status, some body⟩

/-- Whether the response says that the request was carried out. -/
def isSuccess (response : Response) : Bool := response.status.isSuccess

end Response

end DocumentApi
