import DocumentApi.Number.Binary64

/-!
# Numerals

How integers and decimal fractions are written in query parameters, path segments and typed texts.
All digits are the ASCII ones, and nothing may stand before or after the numeral.

* `readNat?` reads a natural number with an optional `+`, `readInt?` an integer with an optional
  sign; a caller that needs a range checks it on the number;
* `Decimal.read?` reads an optional sign, digits with an optional point and an optional exponent;
* `readReal?` reads a decimal numeral, `inf`, `infinity` or `nan` as a binary64.
-/

namespace DocumentApi.Numeral

/-- The value of an ASCII digit. -/
def digitValue (c : Char) : Nat :=
  c.toNat - 48

/-- Whether `c` is an ASCII digit. -/
def isDigit (c : Char) : Bool :=
  '0' ≤ c && c ≤ '9'

/-- The number written by a list of digits, where `value` is that of the digits before them. -/
def valueFrom (value : Nat) (digits : List Char) : Nat :=
  digits.foldl (fun n c => 10 * n + digitValue c) value

/-- The number written by a list of digits. -/
def value (digits : List Char) : Nat :=
  valueFrom 0 digits

/-- The number that a text of at least one digit, and nothing else, writes. -/
def readDigits? (cs : List Char) : Option Nat :=
  if !cs.isEmpty && cs.all isDigit then some (value cs) else none

/-- The number that digits after an optional `+` write. -/
def readNat? : List Char → Option Nat
  | '+' :: cs => readDigits? cs
  | cs => readDigits? cs

/-- The number that digits after an optional sign write. -/
def readInt? : List Char → Option Int
  | '-' :: cs => (readDigits? cs).map fun n => -(n : Int)
  | cs => (readNat? cs).map fun n => (n : Int)

/-- The number that `readInt?` reads, if it lies between the bounds. -/
def readIntBetween? (low high : Int) (cs : List Char) : Option Int :=
  (readInt? cs).filter fun n => low ≤ n && n ≤ high

/-- A signed integer of 64 bits. -/
def readInt64? (text : String) : Option Int64 :=
  (readIntBetween? Int64.minValue.toInt Int64.maxValue.toInt text.toList).map Int64.ofInt

/-- An unsigned integer of 64 bits. -/
def readUInt64? (text : String) : Option Nat :=
  (readNat? text.toList).filter (· < UInt64.size)

/-- The decimal digits of a natural number, without leading zeros. -/
def digitsOf (n : Nat) : List Char :=
  Nat.toDigits 10 n

/-- A decimal numeral: the number `digits * 10 ^ exponent` with a sign. -/
structure Decimal where
  negative : Bool
  digits : Nat
  exponent : Int
  deriving DecidableEq

namespace Decimal

/-- Takes an optional sign off a text; `true` stands for minus. -/
def takeSign : List Char → Bool × List Char
  | '-' :: cs => (true, cs)
  | '+' :: cs => (false, cs)
  | cs => (false, cs)

/-- The power of ten after an `e` or `E`; no text at all stands for the power 0. -/
def readExponent? : List Char → Option Int
  | [] => some 0
  | c :: cs => if c = 'e' ∨ c = 'E' then readInt? cs else none

/-- The digits before and after the point, with what follows them. -/
def takeDigits (cs : List Char) : List Char × List Char × List Char :=
  let whole := cs.takeWhile isDigit
  match cs.dropWhile isDigit with
  | '.' :: rest => (whole, rest.takeWhile isDigit, rest.dropWhile isDigit)
  | rest => (whole, [], rest)

/-- Reads a sign, digits with an optional point and an optional exponent; there is at least one
digit before or after the point. -/
def read? (cs : List Char) : Option Decimal :=
  let (negative, body) := takeSign cs
  let (whole, fraction, rest) := takeDigits body
  if whole.isEmpty && fraction.isEmpty then none
  else (readExponent? rest).map fun exponent =>
    ⟨negative, value (whole ++ fraction), exponent - fraction.length⟩

/-- The binary64 nearest to the numeral. -/
def toBinary64 (d : Decimal) : Binary64 :=
  Binary64.ofDecimal d.negative d.digits d.exponent

end Decimal

/-- Reads a decimal numeral, or one of the words `inf`, `infinity` and `nan` in any case after an
optional sign. -/
def readReal? (cs : List Char) : Option Binary64 :=
  let (negative, body) := Decimal.takeSign cs
  let word := String.ofList (body.map Char.toLower)
  if word = "inf" ∨ word = "infinity" then some (.infinite negative)
  else if word = "nan" then some .nan
  else (Decimal.read? cs).map Decimal.toBinary64

end DocumentApi.Numeral
