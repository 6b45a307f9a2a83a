import DocumentApi.Bson.Comparable
import DocumentApi.Criteria.Interpretation
import DocumentApi.Document.Path
import DocumentApi.Error
import DocumentApi.Text.Quoted

/-!
# Matching documents

What criteria mean for a stored document. A question is about the values that its path reaches and,
where such a value is an array, about the items of the array as well; only the question for no value
at all disregards items.

Patterns are compiled by a `PatternEngine`, which is a parameter: each pattern is compiled when it
is first met and kept for the documents after it. All questions are answered before the answers are
combined, so an invalid pattern is a failure whatever the other answers are, and it is none if there
is no document to match. The failure repeats what the engine says about the pattern.
-/

namespace DocumentApi

/-- A way of turning the text of a pattern into a predicate on texts, or of saying why it is
invalid. -/
structure PatternEngine where
  compile : String → Except String (String → Bool)

/-- The predicate of a pattern, where it is valid. -/
def PatternEngine.compile? (engine : PatternEngine) (text : String) : Option (String → Bool) :=
  (engine.compile text).toOption

/-- The patterns that have been compiled. -/
abbrev PatternCache := Fields (String → Bool)

/-- Computations that keep compiled patterns and may fail. -/
abbrev MatchM := StateT PatternCache (Except StoreError)

namespace Matching

variable (engine : PatternEngine)

/-- The failure that an invalid pattern causes, for the reason that the engine gives. -/
def invalidPattern (text reason : String) : StoreError :=
  .backend ("invalid pattern " ++ Text.Quoted.quote text ++ ": " ++ reason)

/-- The predicate of a pattern, compiled unless it has been compiled before. -/
def predicate (text : String) : MatchM (String → Bool) := fun cache =>
  match Fields.get? cache text with
  | some matcher => .ok (matcher, cache)
  | none =>
    match engine.compile text with
    | .ok matcher => .ok (matcher, Fields.insert cache text matcher)
    | .error reason => .error (invalidPattern text reason)

/-- Whether a value is null or undefined. -/
def isNullish : Bson → Bool
  | .null | .undefined => true
  | _ => false

/-- Whether a value is a text with a property. -/
def isTextThat (property : String → Bool) : Bson → Bool
  | .string text => property text
  | _ => false

/-- Whether a value is equal to an expected one. -/
def isEqualTo (expected value : Bson) : Bool :=
  value.comparable.same expected.comparable

/-- What questions mean for a document. -/
def meaning (document : Document) : Criteria.Interpretation MatchM Bool where
  null path :=
    let values := document.candidates path
    pure (values.isEmpty || values.any isNullish)
  undefined path := pure (document.resolve path).isEmpty
  equals path expected := pure ((document.candidates path).any (isEqualTo expected))
  pattern path text := do
    let matcher ← predicate engine text
    pure ((document.candidates path).any (isTextThat matcher))
  all answers := pure (answers.all id)

/-- Whether a document satisfies criteria. -/
def evaluate (criteria : Criteria) (document : Document) : MatchM Bool :=
  (meaning engine document).ofLeaves criteria

/-- The documents that satisfy criteria, in their order. -/
def select (criteria : Criteria) : List Document → MatchM (List Document)
  | [] => pure []
  | document :: rest => do
    let isMatch ← evaluate engine criteria document
    let others ← select criteria rest
    pure (if isMatch then document :: others else others)

/-- The documents that satisfy criteria, in their order, with no pattern compiled before. -/
def filter (criteria : Criteria) (documents : List Document) : Except StoreError (List Document) :=
  (select engine criteria documents).run' []

end Matching

end DocumentApi
