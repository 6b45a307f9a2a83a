import DocumentApi.Criteria
import DocumentApi.Number.Numeral
import DocumentApi.Text.Blank
import DocumentApi.Text.Percent

/-!
# Coercion of query values

A value in a query string has no type of its own; its text decides. After percent-decoding and
trimming, the four keywords in any letter case stand for themselves, `0` and every numeral of a
finite number other than zero stands for that number, and every other text is a pattern. A whole
number of at most 2^53 - 1 in magnitude is an integer, any other number a double. Zero in any other
spelling is a pattern.
-/

namespace DocumentApi.Criterion

/-- The largest integer up to which every integer is a binary64. -/
def largestExactInteger : Nat := 9007199254740991

/-- What a keyword stands for. The keywords are ASCII, and no other letter has one of theirs as its
lower-case form. -/
def ofKeyword? (text : String) : Option Criterion :=
  let word := String.ofList (text.toList.map Char.toLower)
  if word = "null" then some .null
  else if word = "undefined" then some .undefined
  else if word = "true" then some (.bool true)
  else if word = "false" then some (.bool false)
  else none

/-- The integer or double that is a given number. -/
def ofNumber (x : Binary64) : Criterion :=
  match x.toInt? with
  | some n => if n.natAbs ≤ largestExactInteger then .int (Int64.ofInt n) else .double x
  | none => .double x

/-- The number that a text writes, if it is finite and not zero. -/
def ofNumeral? (text : String) : Option Criterion :=
  ((Numeral.Decimal.read? text.toList).map Numeral.Decimal.toBinary64).bind fun x =>
    if x.isFinite && !x.isZero then some (ofNumber x) else none

/-- What a trimmed and decoded text asks for. -/
def classify (text : String) : Criterion :=
  match ofKeyword? text with
  | some keyword => keyword
  | none => if text = "0" then .int 0 else (ofNumeral? text).getD (.pattern text)

/-- What a raw value of a query string asks for. -/
def coerce (token : String) : Criterion :=
  classify (Text.trim (Text.Percent.decode token))

end DocumentApi.Criterion
