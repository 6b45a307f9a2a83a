import DocumentApi.Bson
import DocumentApi.Criteria

/-!
# Interpreting criteria

Criteria are given a meaning by saying what each kind of question means at a dotted path and how
meanings are combined. The meaning of a tree can be taken in two ways: of its leaves, or level by
level.

* `Criteria.Interpretation.ofLeaves` combines the meanings of all leaves at once;
* `Criteria.Interpretation.ofTree` combines them at every level of the tree.
-/

namespace DocumentApi.Criteria

/-- What the questions of criteria mean, in a setting `m` with effects. -/
structure Interpretation (m : Type → Type) (α : Type) where
  null : String → m α
  undefined : String → m α
  equals : String → Bson → m α
  pattern : String → String → m α
  all : List α → m α

namespace Interpretation

variable {m : Type → Type} [Monad m] {α : Type}

mutual

/-- The meaning of one criterion at a path; nested criteria are combined at their level. -/
def meaningAt (meaning : Interpretation m α) (path : String) : Criterion → m α
  | .null => meaning.null path
  | .undefined => meaning.undefined path
  | .bool value => meaning.equals path (.bool value)
  | .int value => meaning.equals path (.int64 value)
  | .double value => meaning.equals path (.double value)
  | .string text => meaning.equals path (.string text)
  | .pattern text => meaning.pattern path text
  | .nested entries => do meaning.all (← below meaning (some path) entries)

/-- The meanings of entries that stand below a path. -/
def below (meaning : Interpretation m α) (above : Option String) :
    List (String × Criterion) → m (List α)
  | [] => pure []
  | (key, value) :: rest => do
    let first ← meaningAt meaning (extend above key) value
    let others ← below meaning above rest
    pure (first :: others)

end

/-- The meanings of a list of leaves. -/
def each (meaning : Interpretation m α) : List (String × Criterion) → m (List α)
  | [] => pure []
  | (path, value) :: rest => do
    let first ← meaningAt meaning path value
    let others ← each meaning rest
    pure (first :: others)

/-- The meaning of criteria as that of all their leaves together. -/
def ofLeaves (meaning : Interpretation m α) (criteria : Criteria) : m α := do
  meaning.all (← meaning.each criteria.leaves)

/-- The meaning of criteria level by level. -/
def ofTree (meaning : Interpretation m α) (criteria : Criteria) : m α := do
  meaning.all (← meaning.below none criteria)

end Interpretation

end DocumentApi.Criteria
