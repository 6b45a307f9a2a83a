import DocumentApi.Number.Binary64

/-!
# Shortest decimal digits

The fewest decimal digits that read back as a given binary64, and among these the nearest to it.
All is exact arithmetic on naturals: the reals that round to a number form an interval, whose ends
belong to it when the number's last binary digit is even, and if some decimal with n digits lies in
the interval then so does one of the number's two neighbours among the decimals with n digits.
-/

namespace DocumentApi.Binary64

/-- A decimal `digits * 10 ^ exponent`. -/
structure ShortDecimal where
  digits : Nat
  exponent : Int
  deriving DecidableEq, Inhabited

/-- The reals that round to a magnitude, in quarters of a unit. -/
structure RoundingInterval where
  low : Nat
  high : Nat
  closed : Bool

/-- The interval of the reals that round to `units`, which is not zero. Below a power of two the
next number is half as far away as above it. -/
def roundingInterval (units : Nat) : RoundingInterval :=
  let step := 1 <<< excess units
  let below := if units = 1 <<< units.log2 && 1 < step then step / 2 else step
  ⟨4 * units - 2 * below, 4 * units + 2 * step, units / step % 2 == 0⟩

/-- The quarter units in `digits * 10 ^ exponent`, as a quotient. -/
def ShortDecimal.quarterUnits (d : ShortDecimal) : Nat × Nat :=
  if 0 ≤ d.exponent then (d.digits * Nat.pow 10 d.exponent.toNat * (4 * unitsPerOne), 1)
  else (d.digits * (4 * unitsPerOne), Nat.pow 10 (-d.exponent).toNat)

/-- Whether a decimal lies in an interval. -/
def RoundingInterval.contains (interval : RoundingInterval) (d : ShortDecimal) : Bool :=
  let (num, den) := d.quarterUnits
  if interval.closed then interval.low * den ≤ num && num ≤ interval.high * den
  else interval.low * den < num && num < interval.high * den

/-- The decimal exponent `k` with 10^(k-1) ≤ `units` * 2^-1074 < 10^k. -/
def decimalMagnitude (units : Nat) : Int :=
  ((Nat.toDigits 10 (units * Nat.pow 10 400 / unitsPerOne)).length : Int) - 400

/-- The number of whole steps of 10^`exponent` in the magnitude `units`. -/
def stepsBelow (units : Nat) (exponent : Int) : Nat :=
  if 0 ≤ exponent then units / (unitsPerOne * Nat.pow 10 exponent.toNat)
  else units * Nat.pow 10 (-exponent).toNat / unitsPerOne

/-- Of the two neighbours of `units` among the multiples of 10^`exponent`, the one that rounds to
`units`, if any does; of both the nearer one, and of two equally near ones the even one. -/
def neighbour? (units : Nat) (exponent : Int) : Option ShortDecimal :=
  let interval := roundingInterval units
  let lower : ShortDecimal := ⟨stepsBelow units exponent, exponent⟩
  let upper : ShortDecimal := ⟨lower.digits + 1, exponent⟩
  match interval.contains lower, interval.contains upper with
  | true, true =>
    let (low, den) := lower.quarterUnits
    let high := upper.quarterUnits.1
    let below := 4 * units * den - low
    let above := high - 4 * units * den
    if below < above ∨ (below = above ∧ lower.digits % 2 = 0) then some lower else some upper
  | true, false => some lower
  | false, true => some upper
  | false, false => none

/-- The decimal without the zeros at its end; `fuel` bounds their number. -/
def ShortDecimal.strip (d : ShortDecimal) : Nat → ShortDecimal
  | 0 => d
  | fuel + 1 =>
    if d.digits ≠ 0 ∧ d.digits % 10 = 0 then strip ⟨d.digits / 10, d.exponent + 1⟩ fuel else d

/-- The first decimal found among those with `count` digits and, failing that, with more. -/
def searchFrom (units : Nat) (magnitude : Int) (count : Nat) : Nat → ShortDecimal
  | 0 => ⟨stepsBelow units (magnitude - count), magnitude - count⟩
  | fuel + 1 =>
    match neighbour? units (magnitude - count) with
    | some d => d
    | none => searchFrom units magnitude (count + 1) fuel

/-- The fewest digits that read back as the magnitude `units`; seventeen always do. -/
def shortest (units : Nat) : ShortDecimal :=
  if units = 0 then ⟨0, 0⟩
  else (searchFrom units (decimalMagnitude units) 1 17).strip 17

end DocumentApi.Binary64
