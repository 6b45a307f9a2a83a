/-!
# Hexadecimal digits

* `digitValue?` reads a digit of either case, `digit` writes a lower-case one
  (`digitValue?_digit`);
* `fixed` writes a number with a given count of digits.
-/

namespace DocumentApi.Text.Hex

/-- The value of a hexadecimal digit of either case. -/
def digitValue? (c : Char) : Option Nat :=
  if '0' ≤ c ∧ c ≤ '9' then some (c.toNat - 48)
  else if 'a' ≤ c ∧ c ≤ 'f' then some (c.toNat - 87)
  else if 'A' ≤ c ∧ c ≤ 'F' then some (c.toNat - 55)
  else none

/-- The lower-case digit with the value `n`, for `n` below 16. -/
def digit (n : Nat) : Char :=
  if n < 10 then Char.ofNat (48 + n) else Char.ofNat (87 + n)

/-- The `count` last hexadecimal digits of `n`. -/
def fixed (count n : Nat) : List Char :=
  match count with
  | 0 => []
  | count + 1 => fixed count (n / 16) ++ [digit (n % 16)]

/-- The number written by a list of hexadecimal digits, where `value` is that of the digits before
them. -/
def valueFrom? (value : Nat) : List Char → Option Nat
  | [] => some value
  | c :: rest => (digitValue? c).bind fun d => valueFrom? (16 * value + d) rest

/-- The number written by a list of hexadecimal digits. -/
def value? (cs : List Char) : Option Nat :=
  valueFrom? 0 cs

theorem digitValue?_digit : ∀ n < 16, digitValue? (digit n) = some n := by decide

theorem length_fixed (count n : Nat) : (fixed count n).length = count := by
  induction count generalizing n with
  | zero => rfl
  | succ count ih => simp [fixed, ih]

theorem valueFrom?_append (value : Nat) (cs : List Char) (c : Char) :
    valueFrom? value (cs ++ [c]) =
      (valueFrom? value cs).bind fun v => (digitValue? c).map (16 * v + ·) := by
  induction cs generalizing value with
  | nil => cases h : digitValue? c <;> simp [valueFrom?, h]
  | cons d rest ih => cases h : digitValue? d <;> simp [valueFrom?, h, ih]

/-- Reading the digits of a number gives it back, as far as they reach. -/
theorem value?_fixed (count n : Nat) : value? (fixed count n) = some (n % Nat.pow 16 count) := by
  induction count generalizing n with
  | zero => simp [fixed, value?, valueFrom?, Nat.mod_one]
  | succ count ih =>
    have hd := digitValue?_digit (n % 16) (Nat.mod_lt _ (by decide))
    simp only [value?] at ih
    simp only [fixed, value?, valueFrom?_append, ih, hd, Option.bind_some, Option.map_some,
      Option.some.injEq]
    rw [show Nat.pow 16 (count + 1) = 16 * Nat.pow 16 count from Nat.mul_comm _ _, Nat.mod_mul]
    omega

end DocumentApi.Text.Hex
