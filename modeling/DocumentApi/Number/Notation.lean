import DocumentApi.Number.Numeral
import DocumentApi.Number.Shortest

/-!
# Number notation

How the shortest digits of a binary64 are laid out. A `Notation64` record says when a number is
written positionally and whether a whole number keeps `.0`; the two records in use are
`Notation64.json`, for JSON values, and `Notation64.plain`, for values shown in messages.
-/

namespace DocumentApi

/-- The choices that a number format makes. -/
structure Notation64 where
  /-- The scientific exponents that are written positionally; `none` for all of them. -/
  positional : Option (Int × Int)
  /-- Whether a whole number written positionally ends in `.0`. -/
  pointZero : Bool
  infinite : String
  nan : String

namespace Notation64

/-- Numbers in JSON: positional from 10^-5 to below 10^16, always with a point or an exponent. There
is no text for numbers that are not finite, so they are written as null. -/
def json : Notation64 := ⟨some (-5, 15), true, "null", "null"⟩

/-- Numbers in messages: never an exponent, and no point in a whole number. -/
def plain : Notation64 := ⟨none, false, "inf", "NaN"⟩

/-- The positional form of `digits * 10 ^ exponent`. -/
def writePositional (pointZero : Bool) (digits : List Char) (exponent : Int) : List Char :=
  let whole := if pointZero then ['.', '0'] else []
  if 0 ≤ exponent then
    if digits = ['0'] then '0' :: whole
    else digits ++ List.replicate exponent.toNat '0' ++ whole
  else
    let places := (-exponent).toNat
    if places < digits.length then
      digits.take (digits.length - places) ++ '.' :: digits.drop (digits.length - places)
    else '0' :: '.' :: List.replicate (places - digits.length) '0' ++ digits

/-- The form with one digit before the point and a signed power of ten. -/
def writeScientific (digits : List Char) (scientific : Int) : List Char :=
  let mantissa := match digits with
    | first :: second :: more => first :: '.' :: second :: more
    | short => short
  let sign := if scientific < 0 then '-' else '+'
  mantissa ++ 'e' :: sign :: Numeral.digitsOf scientific.natAbs

/-- The text of a number. -/
def write (format : Notation64) : Binary64 → String
  | .nan => format.nan
  | .infinite negative =>
    if negative && format.infinite ≠ "null" then "-" ++ format.infinite else format.infinite
  | .finite negative units _ =>
    let short := Binary64.shortest units
    let digits := Numeral.digitsOf short.digits
    let scientific := short.exponent + digits.length - 1
    let isPositional := match format.positional with
      | none => true
      | some (least, greatest) => least ≤ scientific && scientific ≤ greatest
    let body := if isPositional then writePositional format.pointZero digits short.exponent
      else writeScientific digits scientific
    String.ofList (if negative then '-' :: body else body)

end Notation64

end DocumentApi
