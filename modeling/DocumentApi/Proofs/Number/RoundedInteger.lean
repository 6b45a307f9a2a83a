import DocumentApi.Proofs.Number.Integer

/-!
# Rounded integers

The number of an integer is the integer rounded to 53 binary digits, a tie going to the even
neighbour (`Binary64.roundedInt`). Rounding keeps the order of integers, but not all differences:

* `Binary64.rank?_ofInt` — up to 64 binary digits, the number of an integer has the value of the
  rounded integer, so that numbers of integers are equal and ordered as the rounded integers are
  (`sameValue_ofInt_iff`, `compare?_ofInt`);
* `Binary64.roundedInt_mono`, `Binary64.compare_roundedInt` — greater integers are not rounded
  to smaller ones, and to greater ones if not to the same;
* `Binary64.roundedInt_of_le` — integers up to 2^53 in magnitude are not rounded.
-/

namespace DocumentApi

namespace Binary64

/-! ### Rounding to a step -/

/-- What is rounded to a multiple of a step does not rise above a multiple of the step. -/
theorem roundToMultiple_le {num step bound : Nat} (hstep : step ∣ bound) (h : num ≤ bound) :
    roundToMultiple num 1 step ≤ bound := by
  -- A step of zero rounds everything to zero.
  rcases Nat.eq_zero_or_pos step with rfl | hpos
  · simp [roundToMultiple]
  rcases Nat.lt_or_eq_of_le h with hlt | rfl
  · -- The multiple above the magnitude is the bound at the latest.
    have hquotient : num / step < bound / step := Nat.div_lt_div_of_lt_of_dvd hstep hlt
    have hmultiple : (num / step + 1) * step ≤ bound := by
      calc (num / step + 1) * step ≤ bound / step * step := Nat.mul_le_mul_right step hquotient
        _ = bound := Nat.div_mul_cancel hstep
    unfold roundToMultiple
    simp only [Nat.one_mul]
    split
    · exact Nat.le_trans (Nat.mul_le_mul_right step (Nat.le_succ _)) hmultiple
    · exact hmultiple
  · exact Nat.le_of_eq (roundToMultiple_of_dvd hpos hstep)

theorem dvd_roundToMultiple (num step : Nat) : step ∣ roundToMultiple num 1 step := by
  -- Rounded up or down, it is a multiple.
  unfold roundToMultiple
  simp only [Nat.one_mul]
  split
  · exact Nat.dvd_mul_left step _
  · exact Nat.dvd_mul_left step _

/-- Rounding to one step keeps the order. -/
theorem roundToMultiple_mono {num num' : Nat} (step : Nat) (h : num ≤ num') :
    roundToMultiple num 1 step ≤ roundToMultiple num' 1 step := by
  rcases Nat.lt_or_eq_of_le (Nat.div_le_div_right h : num / step ≤ num' / step) with hlt | heq
  · -- There is a multiple of the step between the two.
    have hstep : 0 < step := Nat.pos_of_ne_zero (by rintro rfl; simp at hlt)
    have hdvd : step ∣ num' / step * step := Nat.dvd_mul_left step _
    calc roundToMultiple num 1 step ≤ num' / step * step :=
          roundToMultiple_le hdvd (Nat.le_of_lt ((Nat.div_lt_iff_lt_mul hstep).mp hlt))
      _ ≤ roundToMultiple num' 1 step := le_roundToMultiple hdvd (Nat.div_mul_le_self num' step)
  · -- Both are rounded to one of the same two multiples, by what is left of them.
    have hrest : num % step ≤ num' % step := by
      have hnum := Nat.div_add_mod num step
      have hnum' := Nat.div_add_mod num' step
      rw [heq] at hnum
      omega
    have hmultiple : num' / step * step ≤ (num' / step + 1) * step :=
      Nat.mul_le_mul_right step (Nat.le_succ _)
    unfold roundToMultiple
    simp only [Nat.one_mul, heq]
    split
    · split
      · exact Nat.le_refl _
      · exact hmultiple
    · next hup =>
      rw [if_neg (by omega)]

/-- Rounding does not depend on the unit. -/
theorem roundToMultiple_mul (num step : Nat) {unit : Nat} (h : 0 < unit) :
    roundToMultiple (num * unit) 1 (step * unit) = roundToMultiple num 1 step * unit := by
  -- The comparisons with the middle between two multiples are in the same unit.
  have hlt : 2 * (num % step * unit) < step * unit ↔ 2 * (num % step) < step := by
    rw [← Nat.mul_assoc, Nat.mul_lt_mul_right h]
  have htie : 2 * (num % step * unit) = step * unit ↔ 2 * (num % step) = step := by
    rw [← Nat.mul_assoc, Nat.mul_left_inj h.ne']
  unfold roundToMultiple
  simp only [Nat.one_mul, Nat.mul_div_mul_right _ _ h, Nat.mul_mod_mul_right, hlt, htie]
  split <;> rw [Nat.mul_assoc]

/-! ### Rounding to 53 binary digits -/

/-- A magnitude rounded to 53 binary digits. -/
def roundedNat (n : Nat) : Nat :=
  roundToMultiple n 1 (1 <<< excess n)

/-- An integer rounded to 53 binary digits. -/
def roundedInt (n : Int) : Int :=
  if n < 0 then -(roundedNat n.natAbs : Int) else roundedNat n.natAbs

theorem excess_of_lt {n : Nat} (h : n < 2 ^ 53) : excess n = 0 := by
  unfold excess
  -- Zero has no binary digits, and other short magnitudes have at most 53.
  rcases Nat.eq_zero_or_pos n with rfl | hpos
  · rw [Nat.log2_zero]
  · have hlog : n.log2 < 53 := (Nat.log2_lt hpos.ne').mpr h
    omega

theorem log2_mul_two_pow {n : Nat} (h : n ≠ 0) (zeros : Nat) :
    (n * 2 ^ zeros).log2 = n.log2 + zeros := by
  have hpos : 0 < 2 ^ zeros := Nat.two_pow_pos zeros
  -- Zeros in binary are factors of two.
  rw [Nat.log2_eq_iff (Nat.mul_ne_zero h hpos.ne'), Nat.pow_add, Nat.add_right_comm, Nat.pow_add]
  exact ⟨Nat.mul_le_mul_right _ (Nat.log2_self_le h),
    Nat.mul_lt_mul_of_pos_right Nat.lt_log2_self hpos⟩

/-- The last digit that fits moves along with zeros that are put behind a long magnitude. -/
theorem excess_mul_two_pow {n : Nat} (h : 2 ^ 53 ≤ n) (zeros : Nat) :
    excess (n * 2 ^ zeros) = excess n + zeros := by
  have hne : n ≠ 0 := (Nat.lt_of_lt_of_le (Nat.two_pow_pos 53) h).ne'
  have hlog : 53 ≤ n.log2 := (Nat.le_log2 hne).mpr h
  unfold excess
  rw [log2_mul_two_pow hne]
  omega

theorem roundedNat_of_lt {n : Nat} (h : n < 2 ^ 53) : roundedNat n = n := by
  unfold roundedNat
  rw [excess_of_lt h]
  exact roundToMultiple_of_dvd (one_shiftLeft_pos 0) (Nat.one_dvd n)

/-- **Magnitudes up to 2^53** are not rounded. -/
theorem roundedNat_of_le {n : Nat} (h : n ≤ 2 ^ 53) : roundedNat n = n := by
  rcases Nat.lt_or_eq_of_le h with hlt | rfl
  · exact roundedNat_of_lt hlt
  · decide +kernel

/-- A long magnitude with zeros put behind it is rounded as it is without them. -/
theorem roundToMultiple_shiftLeft {n : Nat} (h : 2 ^ 53 ≤ n) (zeros : Nat) :
    roundToMultiple (n * 1 <<< zeros) 1 (1 <<< excess (n * 1 <<< zeros))
      = roundedNat n * 1 <<< zeros := by
  have hstep : 1 <<< excess (n * 1 <<< zeros) = 1 <<< excess n * 1 <<< zeros := by
    simp only [Nat.one_shiftLeft]
    rw [excess_mul_two_pow h, Nat.pow_add]
  rw [hstep, roundToMultiple_mul n _ (one_shiftLeft_pos zeros)]
  rfl

/-- The units of a magnitude are rounded to those of the rounded magnitude. -/
theorem roundToMultiple_units (n : Nat) :
    roundToMultiple (n * unitsPerOne) 1 (1 <<< excess (n * unitsPerOne))
      = roundedNat n * unitsPerOne := by
  -- A short magnitude is not rounded, and a long one keeps its last digit that fits.
  rcases Nat.lt_or_ge n (2 ^ 53) with hshort | hlong
  · rw [roundedNat_of_lt hshort]
    exact roundToMultiple_of_dvd (one_shiftLeft_pos _) (representable_natural hshort).2
  · exact roundToMultiple_shiftLeft hlong 1074

/-- The power of two below a magnitude, and that above it, are multiples of the last digit that
fits. -/
theorem shiftLeft_excess_dvd (n : Nat) {digits : Nat} (h : n.log2 ≤ digits) :
    1 <<< excess n ∣ 2 ^ digits := by
  rw [Nat.one_shiftLeft]
  refine Nat.pow_dvd_pow 2 ?_
  unfold excess
  omega

theorem two_pow_log2_le_roundedNat {n : Nat} (h : n ≠ 0) : 2 ^ n.log2 ≤ roundedNat n :=
  le_roundToMultiple (shiftLeft_excess_dvd n (Nat.le_refl _)) (Nat.log2_self_le h)

theorem roundedNat_le_two_pow (n : Nat) : roundedNat n ≤ 2 ^ (n.log2 + 1) :=
  roundToMultiple_le (shiftLeft_excess_dvd n (Nat.le_succ _)) (Nat.le_of_lt Nat.lt_log2_self)

/-- **Rounding keeps the order** of magnitudes: one with more digits is not rounded below a power of
two that the other one is not rounded above. -/
theorem roundedNat_mono {m n : Nat} (h : m ≤ n) : roundedNat m ≤ roundedNat n := by
  rcases Nat.eq_zero_or_pos m with rfl | hpos
  · rw [roundedNat_of_lt (Nat.two_pow_pos 53)]
    exact Nat.zero_le _
  have hne : n ≠ 0 := (Nat.lt_of_lt_of_le hpos h).ne'
  have hlog : m.log2 ≤ n.log2 :=
    (Nat.le_log2 hne).mpr (Nat.le_trans (Nat.log2_self_le hpos.ne') h)
  -- With more digits there is a power of two between the two rounded magnitudes.
  rcases Nat.lt_or_eq_of_le hlog with hlt | heq
  · calc roundedNat m ≤ 2 ^ (m.log2 + 1) := roundedNat_le_two_pow m
      _ ≤ 2 ^ n.log2 := Nat.pow_le_pow_right Nat.two_pos hlt
      _ ≤ roundedNat n := two_pow_log2_le_roundedNat hne
  · -- With as many digits, both are rounded to the same step.
    unfold roundedNat excess
    rw [heq]
    exact roundToMultiple_mono _ h

/-- **Rounding keeps the order** of integers. -/
theorem roundedInt_mono {m n : Int} (h : m ≤ n) : roundedInt m ≤ roundedInt n := by
  unfold roundedInt
  -- Negative integers are rounded by their magnitudes, whose order is the other way round.
  split
  · split
    · have hmono := roundedNat_mono (show n.natAbs ≤ m.natAbs by omega)
      omega
    · omega
  · rw [if_neg (by omega)]
    have hmono := roundedNat_mono (show m.natAbs ≤ n.natAbs by omega)
    omega

/-- **Integers up to 2^53 in magnitude** are not rounded. -/
theorem roundedInt_of_le {n : Int} (h : n.natAbs ≤ 2 ^ 53) : roundedInt n = n := by
  unfold roundedInt
  rw [roundedNat_of_le h]
  split <;> omega

/-- Rounding changes the order of two integers only by making them the same. -/
theorem compare_roundedInt {m n : Int} (h : roundedInt m = roundedInt n → m = n) :
    compare (roundedInt m) (roundedInt n) = compare m n := by
  -- Which of the two is greater does not change, unless they become the same.
  rcases Int.lt_trichotomy m n with hlt | heq | hgt
  · have hne : roundedInt m ≠ roundedInt n := fun hsame => Int.ne_of_lt hlt (h hsame)
    rw [Int.compare_eq_lt.mpr hlt, Int.compare_eq_lt]
    exact Int.lt_iff_le_and_ne.mpr ⟨roundedInt_mono (Int.le_of_lt hlt), hne⟩
  · rw [heq, Int.compare_eq_eq.mpr rfl, Int.compare_eq_eq.mpr rfl]
  · have hne : roundedInt n ≠ roundedInt m := fun hsame => Int.ne_of_gt hgt (h hsame.symm)
    rw [Int.compare_eq_gt.mpr hgt, Int.compare_eq_gt]
    exact Int.lt_iff_le_and_ne.mpr ⟨roundedInt_mono (Int.le_of_lt hgt), hne⟩

/-! ### The numbers of integers -/

/-- Of a rounded long magnitude with zeros put behind it, no more than zeros do not fit. -/
theorem fits_roundedNat {n zeros top : Nat} (h : 2 ^ 53 ≤ n) (htop : n.log2 + 1 + zeros < top) :
    roundedNat n * 1 <<< zeros < 1 <<< top ∧
      1 <<< excess (roundedNat n * 1 <<< zeros) ∣ roundedNat n * 1 <<< zeros := by
  simp only [Nat.one_shiftLeft]
  have hne : n ≠ 0 := (Nat.lt_of_lt_of_le (Nat.two_pow_pos 53) h).ne'
  have hrounded : roundedNat n ≠ 0 :=
    (Nat.lt_of_lt_of_le (Nat.two_pow_pos _) (two_pow_log2_le_roundedNat hne)).ne'
  have hlog : 53 ≤ n.log2 := (Nat.le_log2 hne).mpr h
  have hupper : roundedNat n ≤ 2 ^ (n.log2 + 1) := roundedNat_le_two_pow n
  refine ⟨?_, ?_⟩
  · -- Rounding adds one digit at most.
    calc roundedNat n * 2 ^ zeros ≤ 2 ^ (n.log2 + 1) * 2 ^ zeros :=
          Nat.mul_le_mul_right _ hupper
      _ = 2 ^ (n.log2 + 1 + zeros) := (Nat.pow_add 2 _ _).symm
      _ < 2 ^ top := Nat.pow_lt_pow_right (by omega) htop
  · rcases Nat.lt_or_eq_of_le hupper with hlt | heq
    · -- There are as many digits as before rounding, and what did not fit then is zeros now.
      have hdigits : (roundedNat n).log2 ≤ n.log2 :=
        Nat.le_of_lt_succ ((Nat.log2_lt hrounded).mpr hlt)
      have hdvd : 2 ^ (excess n + zeros) ∣ roundedNat n * 2 ^ zeros := by
        rw [Nat.pow_add, ← Nat.one_shiftLeft]
        exact Nat.mul_dvd_mul_right (dvd_roundToMultiple n _) _
      refine Nat.dvd_trans (Nat.pow_dvd_pow 2 ?_) hdvd
      unfold excess
      rw [log2_mul_two_pow hrounded]
      omega
    · -- The magnitude is rounded up to a power of two.
      rw [heq, ← Nat.pow_add]
      refine Nat.pow_dvd_pow 2 ?_
      unfold excess
      rw [Nat.log2_two_pow]
      omega

/-- A rounded magnitude of at most 64 binary digits is a number of the format. -/
theorem representable_roundedNat {n : Nat} (h : n < 2 ^ 64) :
    Representable (roundedNat n * unitsPerOne) := by
  -- A short magnitude is not rounded, and a long one has at most 64 digits.
  rcases Nat.lt_or_ge n (2 ^ 53) with hshort | hlong
  · rw [roundedNat_of_lt hshort]
    exact representable_natural hshort
  · have hne : n ≠ 0 := (Nat.lt_of_lt_of_le (Nat.two_pow_pos 53) hlong).ne'
    have hlog : n.log2 < 64 := (Nat.log2_lt hne).mpr h
    exact fits_roundedNat hlong (by omega)

/-- The number of an integer of at most 64 binary digits. -/
theorem ofInt_eq {n : Int} (h : n.natAbs < 2 ^ 64) :
    ofInt n = .finite (decide (n < 0)) (roundedNat n.natAbs * unitsPerOne)
      (representable_roundedNat h) := by
  unfold ofInt nearest
  rw [Nat.div_one, roundToMultiple_units, ofUnits, dif_pos (representable_roundedNat h)]

/-- **The number of an integer** has the value of the rounded integer. -/
theorem rank?_ofInt {n : Int} (h : n.natAbs < 2 ^ 64) :
    (ofInt n).rank? = some (roundedInt n * unitsPerOne) := by
  rw [ofInt_eq h, rank?, Option.some.injEq]
  -- The sign is that of the integer, and the units are those of the rounded magnitude.
  unfold roundedInt
  by_cases hn : n < 0
  · rw [decide_eq_true hn, if_pos rfl, if_pos hn, Nat.cast_mul, Int.neg_mul]
  · rw [decide_eq_false hn, if_neg Bool.false_ne_true, if_neg hn, Nat.cast_mul]

theorem sameValue_eq_of_rank? {a b : Binary64} {x y : Int} (ha : a.rank? = some x)
    (hb : b.rank? = some y) : a.sameValue b = (x == y) := by
  unfold sameValue
  rw [ha, hb]

theorem compare?_of_rank? {a b : Binary64} {x y : Int} (ha : a.rank? = some x)
    (hb : b.rank? = some y) : a.compare? b = some (compare x y) := by
  unfold compare?
  rw [ha, hb]

/-- How long a unit is does not matter for the order of multiples of it. -/
theorem compare_mul_right {x y unit : Int} (h : 0 < unit) :
    compare (x * unit) (y * unit) = compare x y := by
  rcases Int.lt_trichotomy x y with hlt | heq | hgt
  · rw [Int.compare_eq_lt.mpr hlt, Int.compare_eq_lt]
    exact Int.mul_lt_mul_of_pos_right hlt h
  · rw [heq, Int.compare_eq_eq.mpr rfl, Int.compare_eq_eq.mpr rfl]
  · rw [Int.compare_eq_gt.mpr hgt, Int.compare_eq_gt]
    exact Int.mul_lt_mul_of_pos_right hgt h

variable {m n : Int} (hm : m.natAbs < 2 ^ 64) (hn : n.natAbs < 2 ^ 64)
include hm hn

/-- **Numbers of integers** have the order of the rounded integers. -/
theorem compare?_ofInt :
    (ofInt m).compare? (ofInt n) = some (compare (roundedInt m) (roundedInt n)) := by
  have hpos := unitsPerOne_pos
  rw [compare?_of_rank? (rank?_ofInt hm) (rank?_ofInt hn), compare_mul_right (by omega)]

/-- **Numbers of integers** have the same value if the rounded integers are the same. -/
theorem sameValue_ofInt_iff :
    (ofInt m).sameValue (ofInt n) = true ↔ roundedInt m = roundedInt n := by
  have hpos := unitsPerOne_pos
  rw [sameValue_eq_of_rank? (rank?_ofInt hm) (rank?_ofInt hn), beq_iff_eq,
    Int.mul_eq_mul_right_iff (by omega)]

end Binary64

end DocumentApi
