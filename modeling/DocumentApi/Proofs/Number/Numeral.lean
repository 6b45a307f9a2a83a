import DocumentApi.Number.Numeral
import Mathlib.Data.List.TakeWhile
import Mathlib.Tactic.IntervalCases
import Mathlib.Tactic.SplitIfs

/-!
# What numerals are made of, and what the digits of an integer read as

* `mem_numeralChars_of_read?` — a numeral is made of digits, signs, a point and the letter of an
  exponent, so it holds nothing that a query gives a meaning of its own;
* `readDecimal?_toString` — the decimal digits of an integer are read as this integer;
* `ofDecimal_natural` — a whole number below 2^53 is a binary64 itself, so nothing is rounded.
-/

namespace DocumentApi

/-! ### Whole numbers -/

namespace Binary64

theorem unitsPerOne_pos : 0 < unitsPerOne := one_shiftLeft_pos 1074

/-- Zeros behind 53 binary digits are all that does not fit into the 53 digits of a number. -/
private theorem fits_shiftLeft {n zeros top : Nat} (h : n < 2 ^ 53) (htop : 53 + zeros ≤ top) :
    n * 1 <<< zeros < 1 <<< top ∧ 1 <<< excess (n * 1 <<< zeros) ∣ n * 1 <<< zeros := by
  simp only [Nat.one_shiftLeft]
  have hpos : 0 < 2 ^ zeros := Nat.two_pow_pos zeros
  have hsmall : n * 2 ^ zeros < 2 ^ (53 + zeros) := by
    rw [Nat.pow_add]
    exact Nat.mul_lt_mul_of_pos_right h hpos
  -- What has to be cut off to leave 53 digits are zeros.
  have hexcess : excess (n * 2 ^ zeros) ≤ zeros := by
    unfold excess
    rcases Nat.eq_zero_or_pos n with rfl | hn
    · rw [Nat.zero_mul, Nat.log2_zero]
      omega
    · have hlog : (n * 2 ^ zeros).log2 < 53 + zeros :=
        (Nat.log2_lt (Nat.mul_pos hn hpos).ne').mpr hsmall
      omega
  exact ⟨Nat.lt_of_lt_of_le hsmall (Nat.pow_le_pow_right Nat.two_pos htop),
    Nat.dvd_mul_left_of_dvd (Nat.pow_dvd_pow 2 hexcess) n⟩

/-- A whole number of at most 53 binary digits is a number of the format. -/
theorem representable_natural {n : Nat} (h : n < 2 ^ 53) : Representable (n * unitsPerOne) :=
  fits_shiftLeft h (by omega)

/-- A multiple of the step is not rounded. -/
theorem roundToMultiple_of_dvd {num step : Nat} (hstep : 0 < step) (h : step ∣ num) :
    roundToMultiple num 1 step = num := by
  -- Nothing is left over, so the multiple below the number is the number.
  have hzero : num % step = 0 := Nat.mod_eq_zero_of_dvd h
  unfold roundToMultiple
  simp only [Nat.one_mul, hzero, Nat.mul_zero, if_pos (Or.inl hstep)]
  exact Nat.div_mul_cancel h

/-- A number of the format is nearest to itself. -/
theorem nearest_of_representable (negative : Bool) {units : Nat} (h : Representable units) :
    nearest negative units 1 = .finite negative units h := by
  unfold nearest
  rw [Nat.div_one, roundToMultiple_of_dvd (one_shiftLeft_pos _) h.2, ofUnits, dif_pos h]

/-- A whole number without a power of ten is rounded to the nearest number. -/
theorem ofDecimal_whole (negative : Bool) {n : Nat} (hpos : 0 < n) :
    ofDecimal negative n 0 = nearest negative (n * unitsPerOne) 1 := by
  -- The exponent is zero: the number is neither too large nor too small, and no power of ten is left.
  have hguards : ¬ (400 : Int) < 0 ∧ ¬ (0 : Int) < -(401 + (n.log2 : Int)) := by omega
  unfold ofDecimal
  rw [if_neg hpos.ne', if_neg hguards.1, if_neg hguards.2, if_pos (Int.le_refl 0)]
  rw [show Nat.pow 10 (0 : Int).toNat = 1 from rfl, Nat.mul_one]

/-- A whole number of at most 53 binary digits is not rounded. -/
theorem ofDecimal_natural (negative : Bool) {n : Nat} (hpos : 0 < n) (h : n < 2 ^ 53) :
    ofDecimal negative n 0 = .finite negative (n * unitsPerOne) (representable_natural h) := by
  rw [ofDecimal_whole negative hpos, nearest_of_representable negative (representable_natural h)]

@[simp] theorem isZero_finite (negative : Bool) {units : Nat} (h : Representable units) :
    (finite negative units h).isZero = (units == 0) := rfl

/-- The sign and the magnitude of an integer make the integer. -/
theorem place_natAbs (n : Int) : (if decide (n < 0) then -(n.natAbs : Int) else n.natAbs) = n := by
  -- By the sign.
  by_cases hn : n < 0
  · rw [if_pos (decide_eq_true hn)]
    omega
  · rw [if_neg (by simpa using hn)]
    omega

/-- The whole number that a number of units is. -/
theorem toInt?_natural (negative : Bool) {n : Nat} (h : Representable (n * unitsPerOne)) :
    toInt? (.finite negative (n * unitsPerOne) h) = some (if negative then -(n : Int) else n) := by
  simp only [toInt?, if_pos (Nat.mul_mod_left n unitsPerOne), Nat.mul_div_cancel n unitsPerOne_pos]

end Binary64

namespace Numeral

/-! ### The characters of numerals -/

/-- The characters of which numerals are made. -/
def numeralChars : List Char :=
  ['0', '1', '2', '3', '4', '5', '6', '7', '8', '9', '+', '-', '.', 'e', 'E']

theorem mem_numeralChars_of_isDigit {c : Char} (h : isDigit c = true) : c ∈ numeralChars := by
  unfold isDigit at h
  rw [Bool.and_eq_true, decide_eq_true_iff, decide_eq_true_iff] at h
  have hlow : 48 ≤ c.toNat := h.1
  have hhigh : c.toNat ≤ 57 := h.2
  -- There are ten of them, by their code points.
  rw [← Char.ofNat_toNat c]
  generalize c.toNat = n at hlow hhigh
  interval_cases n <;> decide

theorem mem_numeralChars_of_readDigits? {cs : List Char} {n : Nat} (h : readDigits? cs = some n) :
    ∀ c ∈ cs, c ∈ numeralChars := by
  unfold readDigits? at h
  -- The text is one of digits, or there is no number.
  split_ifs at h with hall
  rw [Bool.and_eq_true, List.all_eq_true] at hall
  exact fun c hc => mem_numeralChars_of_isDigit (hall.2 c hc)

theorem mem_numeralChars_of_readNat? {cs : List Char} {n : Nat} (h : readNat? cs = some n) :
    ∀ c ∈ cs, c ∈ numeralChars := by
  unfold readNat? at h
  -- A sign may stand in front.
  split at h
  · refine List.forall_mem_cons.mpr ⟨by decide, mem_numeralChars_of_readDigits? h⟩
  · exact mem_numeralChars_of_readDigits? h

theorem mem_numeralChars_of_readInt? {cs : List Char} {n : Int} (h : readInt? cs = some n) :
    ∀ c ∈ cs, c ∈ numeralChars := by
  unfold readInt? at h
  -- Behind a minus sign there are digits only.
  split at h
  · obtain ⟨k, hk, -⟩ := Option.map_eq_some_iff.mp h
    obtain ⟨m, hm, -⟩ := Option.bind_eq_some_iff.mp hk
    exact List.forall_mem_cons.mpr ⟨by decide, mem_numeralChars_of_readDigits? hm⟩
  · obtain ⟨k, hk, -⟩ := Option.map_eq_some_iff.mp h
    obtain ⟨m, hm, -⟩ := Option.bind_eq_some_iff.mp hk
    exact mem_numeralChars_of_readNat? hm

namespace Decimal

theorem mem_numeralChars_of_readExponent? {cs : List Char} {exponent : Int}
    (h : readExponent? cs = some exponent) : ∀ c ∈ cs, c ∈ numeralChars := by
  unfold readExponent? at h
  -- There is no exponent, or the letter and an integer behind it.
  split at h
  · exact fun c hc => absurd hc List.not_mem_nil
  · split_ifs at h with hletter
    refine List.forall_mem_cons.mpr ⟨?_, mem_numeralChars_of_readInt? h⟩
    rcases hletter with rfl | rfl <;> decide

/-- A sign is all that is taken off. -/
theorem mem_takeSign {cs : List Char} {c : Char} (h : c ∈ cs) :
    c ∈ numeralChars ∨ c ∈ (takeSign cs).2 := by
  unfold takeSign
  split
  · -- Either sign is a character of numerals.
    exact (List.mem_cons.mp h).imp (fun hc => by rw [hc]; decide) id
  · exact (List.mem_cons.mp h).imp (fun hc => by rw [hc]; decide) id
  · exact Or.inr h

/-- Digits and a point are all that is taken off. -/
theorem mem_takeDigits {cs : List Char} {c : Char} (h : c ∈ cs) :
    c ∈ numeralChars ∨ c ∈ (takeDigits cs).2.2 := by
  have hdigits : ∀ ds : List Char, ∀ d ∈ ds.takeWhile isDigit, d ∈ numeralChars :=
    fun ds d hd => mem_numeralChars_of_isDigit (List.mem_takeWhile_imp hd)
  rw [← List.takeWhile_append_dropWhile (p := isDigit) (l := cs), List.mem_append] at h
  unfold takeDigits
  -- A character is one of the digits in front, the point, one of the digits behind it, or left.
  rcases h with h | h
  · exact Or.inl (hdigits cs c h)
  · split
    · next rest hrest =>
      rw [hrest, List.mem_cons] at h
      rcases h with rfl | h
      · exact Or.inl (by decide)
      · rw [← List.takeWhile_append_dropWhile (p := isDigit) (l := rest), List.mem_append] at h
        exact h.imp (hdigits rest c) id
    · exact Or.inr h

/-- **A numeral is made of the characters of numerals.** -/
theorem mem_numeralChars_of_read? {cs : List Char} {d : Decimal} (h : read? cs = some d) :
    ∀ c ∈ cs, c ∈ numeralChars := by
  intro c hc
  unfold read? at h
  simp only at h
  split_ifs at h
  obtain ⟨exponent, hexponent, -⟩ := Option.map_eq_some_iff.mp h
  -- The parts are taken off one after another: the sign, the digits, the exponent.
  rcases mem_takeSign hc with hsign | hbody
  · exact hsign
  · rcases mem_takeDigits hbody with hdigit | hrest
    · exact hdigit
    · exact mem_numeralChars_of_readExponent? hexponent c hrest

/-! ### The digits of an integer -/

theorem isDigit_of_mem_digitsOf {n : Nat} {c : Char} (h : c ∈ digitsOf n) : isDigit c = true := by
  have hdigit := Nat.isDigit_of_mem_toDigits (by decide) (by decide) h
  unfold Char.isDigit at hdigit
  unfold isDigit
  rw [Bool.and_eq_true, decide_eq_true_iff, decide_eq_true_iff] at hdigit ⊢
  exact hdigit

theorem value_digitsOf (n : Nat) : value (digitsOf n) = n := by
  have hread : Nat.ofDigitChars 10 (digitsOf n) 0 = n :=
    -- The library reads the digits by the same fold.
    Nat.ofDigitChars_toDigits (by decide) (by decide)
  rw [Nat.ofDigitChars_eq_foldl] at hread
  exact hread

theorem takeDigits_digitsOf (n : Nat) : takeDigits (digitsOf n) = (digitsOf n, [], []) := by
  have hall : ∀ c ∈ digitsOf n, isDigit c = true := fun c hc => isDigit_of_mem_digitsOf hc
  simp only [takeDigits, List.takeWhile_eq_self_iff.mpr hall, List.dropWhile_eq_nil_iff.mpr hall]

theorem takeSign_digitsOf (n : Nat) : takeSign (digitsOf n) = (false, digitsOf n) := by
  have hall : ∀ c ∈ digitsOf n, isDigit c = true := fun c hc => isDigit_of_mem_digitsOf hc
  -- The first digit is no sign.
  unfold takeSign
  split
  · next hminus => exact absurd (hall '-' (hminus ▸ List.mem_cons_self)) (by decide)
  · next hplus => exact absurd (hall '+' (hplus ▸ List.mem_cons_self)) (by decide)
  · rfl

/-- The decimal digits of an integer. -/
theorem toList_toString (n : Int) :
    (toString n).toList = if n < 0 then '-' :: digitsOf n.natAbs else digitsOf n.natAbs := by
  rw [Int.toString_eq_repr, Int.repr_eq_if]
  -- A negative number is written with a minus sign, and then as its opposite.
  by_cases hn : n < 0
  · rw [if_neg (by omega), if_pos hn, String.toList_append, Nat.toList_repr]
    have hnat : (-n).toNat = n.natAbs := by omega
    rw [hnat]
    rfl
  · rw [if_pos (by omega), if_neg hn, Nat.toList_repr]
    have hnat : n.toNat = n.natAbs := by omega
    rw [hnat]
    rfl

/-- **The digits of an integer** are read as this integer. -/
theorem read?_toString (n : Int) :
    read? (toString n).toList = some ⟨decide (n < 0), n.natAbs, 0⟩ := by
  have hne : digitsOf n.natAbs ≠ [] := Nat.toDigits_ne_nil
  -- Behind the sign there are digits only, whether or not there is a sign.
  have hbody : ∀ negative cs, takeSign cs = (negative, digitsOf n.natAbs) →
      read? cs = some ⟨negative, n.natAbs, 0⟩ := by
    intro negative cs hsign
    unfold read?
    simp only [hsign, takeDigits_digitsOf, List.append_nil, value_digitsOf]
    rw [if_neg (by simpa using hne)]
    rfl
  rw [toList_toString]
  by_cases hn : n < 0
  · rw [if_pos hn, decide_eq_true hn]
    exact hbody true _ rfl
  · rw [if_neg hn, decide_eq_false hn]
    exact hbody false _ (takeSign_digitsOf _)

end Decimal

end Numeral

end DocumentApi
