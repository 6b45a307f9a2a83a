import DocumentApi.Criteria.Coercion
import DocumentApi.Text.Split

/-!
# Query strings

A query is a list of tokens `path:value` with commas between them. A path is a list of names with
dots between them, of which empty ones do not count; a token without a colon or without a name is
skipped. The value is all that follows the first colon; nothing at all asks for the empty text.
Tokens are inserted from left to right, so a later one wins over an earlier one that stands in its
way.
-/

namespace DocumentApi.Criteria

/-- A path with what is asked at its end. -/
structure Token where
  path : List String
  value : Criterion

namespace Token

/-- The names of a dotted path; empty ones do not count. -/
def pathOf (cs : List Char) : List String :=
  ((Text.pieces '.' cs).filter (!·.isEmpty)).map String.ofList

/-- What the text after the colon asks for. -/
def valueOf (cs : List Char) : Criterion :=
  if cs.isEmpty then .string "" else Criterion.coerce (String.ofList cs)

/-- Reads one token; `none` if it has no colon or no name. -/
def ofChars? (cs : List Char) : Option Token :=
  (Text.cut? ':' cs).bind fun (path, value) =>
    if (pathOf path).isEmpty then none else some ⟨pathOf path, valueOf value⟩

end Token

/-- The tokens of a query that count, from left to right. -/
def tokens (query : String) : List Token :=
  (Text.pieces ',' query.toList).filterMap Token.ofChars?

/-- Inserts tokens from left to right. -/
def insertTokens (criteria : Criteria) (tokens : List Token) : Criteria :=
  tokens.foldl (fun criteria token => criteria.insertAt token.path token.value) criteria

/-- The criteria that a query string asks for. -/
def ofQuery (query : String) : Criteria :=
  insertTokens [] (tokens query)

end DocumentApi.Criteria
