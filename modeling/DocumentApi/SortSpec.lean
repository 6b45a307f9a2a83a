import DocumentApi.Text.Blank

/-!
# Sort specifications

A sort specification is a text of field names with blanks between them, the most important first. A
minus sign in front of a name sorts downwards and a plus sign, like no sign at all, upwards; a sign
without a name is skipped.
-/

namespace DocumentApi

/-- The direction of a sort. -/
inductive SortDirection where
  | ascending
  | descending
  deriving DecidableEq

/-- One field to sort by. -/
structure SortKey where
  field : String
  direction : SortDirection
  deriving DecidableEq

/-- What to sort by, as it was written. -/
structure SortSpec where
  text : String
  deriving DecidableEq

namespace SortSpec

instance : Inhabited SortSpec := ⟨⟨""⟩⟩

/-- Reads the `sort` parameter of a request, which has commas between its fields. -/
def parse (raw : String) : SortSpec :=
  ⟨String.ofList (raw.toList.map fun c => if c = ',' then ' ' else c)⟩

/-- Whether nothing but blanks is written. -/
def isBlank (spec : SortSpec) : Bool :=
  spec.text.toList.all Text.isBlank

/-- The field that a word names, if it names one. -/
def keyOf? (word : List Char) : Option SortKey :=
  let (name, direction) := match word with
    | '-' :: name => (name, SortDirection.descending)
    | '+' :: name => (name, SortDirection.ascending)
    | name => (name, SortDirection.ascending)
  if name.isEmpty then none else some ⟨String.ofList name, direction⟩

/-- The fields to sort by, the most important first. -/
def keys (spec : SortSpec) : List SortKey :=
  (Text.wordsFrom [] spec.text.toList).filterMap keyOf?

end SortSpec

end DocumentApi
