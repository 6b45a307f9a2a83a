/-!
# Binary floating-point numbers

A number of the IEEE 754 format binary64, as a value: a finite number is a sign and a magnitude,
counted in units of 2^-1074, the smallest positive number of the format. Every finite magnitude of
the format is a whole number of these units, and a number of units belongs to the format exactly
when it is `Representable`.

* `Binary64.nearest` rounds a quotient of naturals to the format, a tie going to the even neighbour;
* `Binary64.rank?` places numbers on the integers so that order and equality of values are those of
  ranks: both zeros have the rank 0 and NaN has none.
-/

namespace DocumentApi

/-- How many of the binary digits of `units` do not fit into the 53 that a number has. -/
def Binary64.excess (units : Nat) : Nat :=
  units.log2 + 1 - 53

/-- Whether a number of units of 2^-1074 is the magnitude of a finite number of the format. -/
def Binary64.Representable (units : Nat) : Prop :=
  units < 1 <<< 2098 ∧ 1 <<< Binary64.excess units ∣ units

instance (units : Nat) : Decidable (Binary64.Representable units) :=
  inferInstanceAs (Decidable (_ ∧ _))

/-- A number of the format binary64; NaNs are not told apart. -/
inductive Binary64 where
  | finite (negative : Bool) (units : Nat) (fits : Binary64.Representable units)
  | infinite (negative : Bool)
  | nan
  deriving DecidableEq

namespace Binary64

theorem one_shiftLeft_pos (n : Nat) : 0 < 1 <<< n := by
  rw [Nat.one_shiftLeft]
  exact Nat.two_pow_pos n

theorem representable_zero : Representable 0 :=
  ⟨one_shiftLeft_pos 2098, Nat.dvd_zero _⟩

/-- Zero with the given sign. -/
def zero (negative : Bool) : Binary64 :=
  .finite negative 0 representable_zero

instance : Inhabited Binary64 := ⟨zero false⟩

/-- The units in one. -/
def unitsPerOne : Nat := 1 <<< 1074

/-- The number with the given magnitude, or infinity if the format has no such number. -/
def ofUnits (negative : Bool) (units : Nat) : Binary64 :=
  if h : Representable units then .finite negative units h else .infinite negative

/-- The multiple of `step` nearest to `num / den`; a tie goes to the even multiple. -/
def roundToMultiple (num den step : Nat) : Nat :=
  let quotient := num / (den * step)
  let twice := 2 * (num % (den * step))
  if twice < den * step ∨ (twice = den * step ∧ quotient % 2 = 0) then quotient * step
  else (quotient + 1) * step

/-- The number nearest to `num / den` units; a tie goes to the one with an even last digit. -/
def nearest (negative : Bool) (num den : Nat) : Binary64 :=
  ofUnits negative (roundToMultiple num den (1 <<< excess (num / den)))

/-- The number nearest to an integer. -/
def ofInt (n : Int) : Binary64 :=
  nearest (n < 0) (n.natAbs * unitsPerOne) 1

/-- The number nearest to `digits * 10 ^ exponent`. Powers of ten that settle the answer by
themselves are not computed: above 10^400 there is nothing but infinity, and below 10^-400 nothing
but zero. -/
def ofDecimal (negative : Bool) (digits : Nat) (exponent : Int) : Binary64 :=
  if digits = 0 then zero negative
  else if 400 < exponent then .infinite negative
  else if exponent < -(401 + (digits.log2 : Int)) then zero negative
  else if 0 ≤ exponent then nearest negative (digits * Nat.pow 10 exponent.toNat * unitsPerOne) 1
  else nearest negative (digits * unitsPerOne) (Nat.pow 10 (-exponent).toNat)

/-- Whether the number is neither infinite nor NaN. -/
def isFinite : Binary64 → Bool
  | .finite .. => true
  | _ => false

/-- Whether the number is one of the two zeros. -/
def isZero : Binary64 → Bool
  | .finite _ units _ => units == 0
  | _ => false

/-- The integer that the number is, if it is one. -/
def toInt? : Binary64 → Option Int
  | .finite negative units _ =>
    if units % unitsPerOne = 0 then
      let n : Int := (units / unitsPerOne : Nat)
      some (if negative then -n else n)
    else none
  | _ => none

/-- The place of a number among the values: its signed units if it is finite, and a place beyond all
of these for the infinities. -/
def rank? : Binary64 → Option Int
  | .finite negative units _ => some (if negative then -(units : Int) else units)
  | .infinite negative =>
    let beyond : Int := (1 <<< 2098 : Nat)
    some (if negative then -beyond else beyond)
  | .nan => none

/-- Whether two numbers have the same value: zeros are equal and NaN differs from itself. -/
def sameValue (a b : Binary64) : Bool :=
  match a.rank?, b.rank? with
  | some x, some y => x == y
  | _, _ => false

/-- The order of the values; NaN is comparable with nothing. -/
def compare? (a b : Binary64) : Option Ordering :=
  match a.rank?, b.rank? with
  | some x, some y => some (compare x y)
  | _, _ => none

/-- The number that 64 bits encode: sign, eleven digits of exponent, 52 digits of fraction. -/
def ofBits (bits : Nat) : Binary64 :=
  let negative := bits >>> 63 % 2 == 1
  let exponent := bits >>> 52 % 2048
  let fraction := bits % 1 <<< 52
  if exponent = 2047 then if fraction = 0 then .infinite negative else .nan
  else if exponent = 0 then ofUnits negative fraction
  else ofUnits negative ((1 <<< 52 + fraction) <<< (exponent - 1))

/-- The 64 bits that encode the number. -/
def toBits : Binary64 → Nat
  | .finite negative units _ =>
    let sign := if negative then 1 <<< 63 else 0
    if units < 1 <<< 52 then sign + units
    else sign + (units.log2 - 51) <<< 52 + (units >>> (units.log2 - 52) - 1 <<< 52)
  | .infinite negative => (if negative then 1 <<< 63 else 0) + 2047 <<< 52
  | .nan => 2047 <<< 52 + 1 <<< 51

end Binary64

end DocumentApi
