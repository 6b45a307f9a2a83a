import DocumentApi.Number.Numeral

/-!
# Decimal floating-point numbers

A number of the IEEE 754 format decimal128: a sign, a coefficient of at most 34 digits and a power
of ten from -6176 to 6111. Unlike binary64, the format tells 1.5 and 1.50 apart.

* `Decimal128.read?` reads a numeral; it never rounds, so a numeral that does not fit exactly is
  refused;
* `Decimal128.write` writes the canonical text of a number.
-/

namespace DocumentApi

/-- What a coefficient and an exponent of the format satisfy. -/
def Decimal128.Fits (coefficient : Nat) (exponent : Int) : Prop :=
  coefficient < Nat.pow 10 34 ∧ -6176 ≤ exponent ∧ exponent ≤ 6111

instance (coefficient : Nat) (exponent : Int) : Decidable (Decimal128.Fits coefficient exponent) :=
  inferInstanceAs (Decidable (_ ∧ _ ∧ _))

/-- A number of the format decimal128. -/
inductive Decimal128 where
  | finite (negative : Bool) (coefficient : Nat) (exponent : Int)
      (fits : Decimal128.Fits coefficient exponent)
  | infinite (negative : Bool)
  | nan (negative signaling : Bool)
  deriving DecidableEq

namespace Decimal128

/-- The number with the given parts, if they fit the format. -/
def ofParts? (negative : Bool) (coefficient : Nat) (exponent : Int) : Option Decimal128 :=
  if h : Fits coefficient exponent then some (.finite negative coefficient exponent h) else none

/-- Drops `count` zeros at the end of `coefficient`; `none` if there are not so many. -/
def dropZeros? (coefficient count : Nat) : Option Nat :=
  if coefficient % Nat.pow 10 count = 0 then some (coefficient / Nat.pow 10 count) else none

/-- The number of digits that have to go from the end of a coefficient for it to fit. -/
def surplus (coefficient : Nat) : Nat :=
  (Numeral.digitsOf coefficient).length - 34

/-- The number `coefficient * 10 ^ exponent`. A coefficient that is too long, or an exponent that is
too small, is mended by dropping zeros, and an exponent that is too large by adding zeros; zero
takes any exponent to the nearest one of the format. -/
def ofScaled? (negative : Bool) (coefficient : Nat) (exponent : Int) : Option Decimal128 :=
  if coefficient = 0 then ofParts? negative 0 (max (-6176) (min 6111 exponent))
  else do
    let tooLong := surplus coefficient
    let short ← dropZeros? coefficient tooLong
    let exponent := exponent + tooLong
    if exponent < -6176 then
      let missing := (-6176 - exponent).toNat
      if missing < (Numeral.digitsOf short).length then
        ofParts? negative (← dropZeros? short missing) (-6176)
      else none
    else if 6111 < exponent then
      let zeros := (exponent - 6111).toNat
      if zeros + (Numeral.digitsOf short).length ≤ 34 then
        ofParts? negative (short * Nat.pow 10 zeros) 6111
      else none
    else ofParts? negative short exponent

/-- Reads a sign and a word for infinity or NaN, or a decimal numeral whose written exponent and
whose exponent after moving the point to the end both fit 16 bits. -/
def read? (text : String) : Option Decimal128 :=
  let (negative, body) := Numeral.Decimal.takeSign text.toList
  let word := String.ofList (body.map Char.toLower)
  if word = "nan" then some (.nan negative false)
  else if word = "snan" then some (.nan negative true)
  else if word = "infinity" ∨ word = "inf" then some (.infinite negative)
  else
    let (whole, fraction, rest) := Numeral.Decimal.takeDigits body
    if whole.isEmpty && fraction.isEmpty then none
    else do
      let written ← Numeral.Decimal.readExponent? rest
      let exponent := written - fraction.length
      if written < -32768 ∨ 32768 ≤ written ∨ exponent < -32768 then none
      else ofScaled? negative (Numeral.value (whole ++ fraction)) exponent

/-- The digits with a point before the last `places` of them. -/
def writePlain (digits : List Char) (places : Nat) : List Char :=
  if places = 0 then digits
  else if places < digits.length then
    digits.take (digits.length - places) ++ '.' :: digits.drop (digits.length - places)
  else '0' :: '.' :: List.replicate (places - digits.length) '0' ++ digits

/-- The digits with a point after the first one and a signed power of ten. -/
def writeScientific (digits : List Char) (scientific : Int) : List Char :=
  let mantissa := match digits with
    | first :: second :: more => first :: '.' :: second :: more
    | short => short
  mantissa ++ 'E' :: (if scientific < 0 then '-' else '+') :: Numeral.digitsOf scientific.natAbs

/-- The canonical text: positional if the exponent is not positive and the first digit stands at
10^-6 or above, else scientific. NaN has no sign. -/
def write : Decimal128 → String
  | .nan _ _ => "NaN"
  | .infinite negative => if negative then "-Infinity" else "Infinity"
  | .finite negative coefficient exponent _ =>
    let digits := Numeral.digitsOf coefficient
    let scientific := exponent + digits.length - 1
    let body := if exponent ≤ 0 ∧ -6 ≤ scientific then writePlain digits (-exponent).toNat
      else writeScientific digits scientific
    String.ofList (if negative then '-' :: body else body)

end Decimal128

end DocumentApi
