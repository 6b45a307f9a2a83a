/-!
# Pages and list envelopes

A list read may be cut into pages of equal size. A page exists only if its number and size make
sense; otherwise the whole list is read. Places are computed in 64 bits without a sign, and a place
that does not fit is the last one that does.

* `Page.skip` and `Page.hasMore` say where a page starts and whether another follows;
* `Envelope` is what a list read answers with.
-/

namespace DocumentApi

/-- The largest place in a list. -/
def Page.lastPlace : Nat := UInt64.size - 1

/-- A page of a list: its number from 0 and the number of documents on it. -/
structure Page where
  number : Nat
  size : Nat
  deriving DecidableEq

namespace Page

/-- A place, or the last one that exists. -/
def saturate (place : Nat) : Nat :=
  min place lastPlace

/-- The page with a number that is not negative and a size that is positive. -/
def ofParams? (number size : Option Int) : Option Page :=
  match number, size with
  | some number, some size =>
    if 0 ≤ number ∧ 0 < size then some ⟨number.toNat, size.toNat⟩ else none
  | _, _ => none

/-- How many documents come before the page. -/
def skip (page : Page) : Nat :=
  saturate (page.number * page.size)

/-- How many documents the page holds at most. -/
def limit (page : Page) : Nat :=
  page.size

/-- Whether documents come after the page, given how many there are. -/
def hasMore (page : Page) (totalCount : Nat) : Bool :=
  saturate (saturate (page.number + 1) * page.size) < totalCount

end Page

/-- A list of documents, whether another page follows and how many documents there are on all
pages. -/
structure Envelope (α : Type) where
  data : List α
  hasMore : Bool
  totalCount : Nat
  deriving Inhabited

namespace Envelope

variable {α β : Type}

/-- No documents. -/
def empty : Envelope α := ⟨[], false, 0⟩

/-- All documents of a list on one page. -/
def ofList (data : List α) : Envelope α :=
  ⟨data, false, data.length⟩

/-- The envelope with another number of documents. -/
def withTotalCount (envelope : Envelope α) (totalCount : Nat) : Envelope α :=
  { envelope with totalCount }

/-- The envelope of the given page of so many documents. -/
def withPage (envelope : Envelope α) (page : Option Page) (totalCount : Nat) : Envelope α :=
  { envelope with hasMore := page.any (·.hasMore totalCount), totalCount }

/-- Changes every document. -/
def map (f : α → β) (envelope : Envelope α) : Envelope β :=
  ⟨envelope.data.map f, envelope.hasMore, envelope.totalCount⟩

end Envelope

end DocumentApi
