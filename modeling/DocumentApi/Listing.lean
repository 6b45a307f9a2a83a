import DocumentApi.Criteria.Query
import DocumentApi.Page
import DocumentApi.Population
import DocumentApi.Request
import DocumentApi.Schema
import DocumentApi.Selection

/-!
# Listings

A listing is what a list read asks for, as the query string of a request says it. Unless it asks for
deactivated documents, or its criteria ask about activity themselves, only active documents are
listed.

* `Listing.ofRequest` reads the query string;
* `Listing.selection` is the read of the store that a listing leads to.
-/

namespace DocumentApi

/-- What a list read asks for. -/
structure Listing where
  criteria : Criteria
  projection : Projection
  population : Population
  pageNumber : Option Int
  pageSize : Option Int
  sort : SortSpec
  /-- Whether deactivated documents are listed when the criteria do not ask about activity. -/
  showInactive : Bool
  deriving Inhabited

namespace Listing

/-- The page to read, if the list is cut into pages. -/
def page? (listing : Listing) : Option Page :=
  Page.ofParams? listing.pageNumber listing.pageSize

/-- The criteria, with the one that only active documents satisfy unless inactive ones are to be
shown or the criteria ask about activity themselves. -/
def effectiveCriteria (listing : Listing) : Criteria :=
  if listing.showInactive || Fields.contains listing.criteria Schema.activeField then
    listing.criteria
  else Fields.insert listing.criteria Schema.activeField (.bool true)

/-- The read to carry out. -/
def selection (listing : Listing) : Selection where
  criteria := listing.effectiveCriteria
  projection := listing.projection
  sort := listing.sort
  skip := listing.page?.map (·.skip)
  limit := listing.page?.map (·.limit)

/-- An integer parameter of the query string: 0 if it is absent, none if it is no integer of 64
bits. -/
def integerParam (raw : Option String) : Option Int :=
  match raw with
  | none => some 0
  | some text => (Numeral.readInt64? (Text.trim text)).map Int64.toInt

/-- Whether a parameter says yes: it is there and is neither blank nor `false` nor `0`. -/
def isTruthy (raw : Option String) : Bool :=
  match raw with
  | none => false
  | some text =>
    let word := Text.trim text
    word ≠ "" && word ≠ "false" && word ≠ "0"

/-- A parameter of the query string; an absent one is empty. -/
def textParam (request : Request) (name : String) : String :=
  (request.queryParam? name).getD ""

/-- What the query string of a list request asks for. -/
def ofRequest (request : Request) : Listing where
  criteria := Criteria.ofQuery (textParam request "q")
  projection := Projection.parse (textParam request "fields")
  population := Population.parse (textParam request "populate")
  pageNumber := integerParam (request.queryParam? "page")
  pageSize := integerParam (request.queryParam? "per_page")
  sort := SortSpec.parse (textParam request "sort")
  showInactive := isTruthy (request.queryParam? "showInactive")

end Listing

end DocumentApi
