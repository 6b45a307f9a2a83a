import DocumentApi.Fields
import DocumentApi.Number.Binary64

/-!
# Selection criteria

Criteria say which documents a read is about. They form a tree: each entry names a field and either
asks something of its value or leads to the criteria of the fields below it. The questions at the
ends of the tree, each with the dotted path that leads to it, are its leaves.

* `Criteria.insertAt` puts a question below a path, so that the path leads to it whatever stood in
  the way before;
* `Criteria.leaves` lists the questions with their paths from left to right.
-/

namespace DocumentApi

/-- What is asked of one field. -/
inductive Criterion where
  /-- The value is null, or there is none. -/
  | null
  /-- There is no value. -/
  | undefined
  | bool (value : Bool)
  | int (value : Int64)
  | double (value : Binary64)
  /-- The value is exactly this text. -/
  | string (text : String)
  /-- The value is a text in which the pattern matches somewhere, in any letter case. -/
  | pattern (text : String)
  /-- Questions about the fields below this one. -/
  | nested (entries : List (String × Criterion))
  deriving Inhabited

/-- Named criteria in order; their names are distinct. -/
abbrev Criteria := Fields Criterion

namespace Criteria

/-- The criteria below the entry called `key`; none if it is a question or absent. -/
def below (criteria : Criteria) (key : String) : Criteria :=
  match Fields.get? criteria key with
  | some (.nested entries) => entries
  | _ => []

/-- Puts a criterion at the end of a path. A question on the way gives place to the rest of the
path; the empty path leads nowhere. -/
def insertAt (criteria : Criteria) : List String → Criterion → Criteria
  | [], _ => criteria
  | [key], value => Fields.insert criteria key value
  | key :: next :: rest, value =>
    Fields.insert criteria key (.nested (insertAt (criteria.below key) (next :: rest) value))

/-- The dotted path of the field `key` below the path `above`, if there is one. -/
def extend (above : Option String) (key : String) : String :=
  match above with
  | some path => path ++ "." ++ key
  | none => key

mutual

/-- The leaves of one criterion, which stands at `path`. -/
def leavesAt (path : String) : Criterion → List (String × Criterion)
  | .nested entries => leavesBelow (some path) entries
  | leaf => [(path, leaf)]

/-- The leaves of entries that stand below the path `above`. -/
def leavesBelow (above : Option String) : List (String × Criterion) → List (String × Criterion)
  | [] => []
  | (key, value) :: rest => leavesAt (extend above key) value ++ leavesBelow above rest

end

/-- The questions of the tree with their dotted paths, from left to right. -/
def leaves (criteria : Criteria) : List (String × Criterion) :=
  leavesBelow none criteria

end Criteria

end DocumentApi
