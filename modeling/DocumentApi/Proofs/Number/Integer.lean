import DocumentApi.Proofs.Number.Numeral

/-!
# Integers as binary floating-point numbers

An integer of less than 53 binary digits is a binary64 itself. Longer ones are rounded, so that
different integers can have the same number:

* `Binary64.eq_of_sameValue` — apart from zeros, finite numbers with the same value are the same, and
  one with the value of an integer is this integer (`Binary64.toInt?_of_rank?`);
* `Binary64.sameValue_ofInt` — if the numbers of two integers have the same value, then the integers
  are the same or both are at least 2^53 in magnitude. Rounding a longer integer does not bring it
  below 2^53, because 2^53 and the powers of two above it are numbers of the format.
-/

namespace DocumentApi

namespace Binary64

/-! ### Equality of values -/

/-- Two numbers have the same value if they have the same place among the values. -/
theorem sameValue_iff {a b : Binary64} :
    a.sameValue b = true ↔ ∃ rank, a.rank? = some rank ∧ b.rank? = some rank := by
  unfold sameValue
  -- Without a place a number has the value of no number, not even of itself.
  cases a.rank? with
  | none => simp
  | some x =>
    cases b.rank? with
    | none => simp
    | some y =>
      constructor
      · intro h
        have hxy : x = y := eq_of_beq h
        exact ⟨x, rfl, by rw [hxy]⟩
      · rintro ⟨rank, hx, hy⟩
        have hxy : x = y := (Option.some.inj hx).trans (Option.some.inj hy).symm
        exact beq_iff_eq.mpr hxy

theorem sameValue_comm (a b : Binary64) : a.sameValue b = b.sameValue a := by
  rw [Bool.eq_iff_iff, sameValue_iff, sameValue_iff]
  exact exists_congr fun rank => And.comm

theorem sameValue_trans {a b c : Binary64} (hab : a.sameValue b = true)
    (hbc : b.sameValue c = true) : a.sameValue c = true := by
  obtain ⟨rank, ha, hb⟩ := sameValue_iff.mp hab
  obtain ⟨rank', hb', hc⟩ := sameValue_iff.mp hbc
  have hrank : rank' = rank := Option.some.inj (hb'.symm.trans hb)
  exact sameValue_iff.mpr ⟨rank, ha, hrank ▸ hc⟩

/-! ### Numbers with the same value -/

/-- A sign does not change the magnitude. -/
theorem natAbs_place (negative : Bool) (units : Nat) :
    (if negative then -(units : Int) else units).natAbs = units := by
  cases negative <;> simp

theorem place_mul (negative : Bool) (n units : Nat) :
    (if negative then -((n * units : Nat) : Int) else (n * units : Nat))
      = (if negative then -(n : Int) else n) * units := by
  cases negative with
  | true => rw [if_pos rfl, if_pos rfl, Nat.cast_mul, Int.neg_mul]
  | false => exact Nat.cast_mul n units

/-- A whole number is that many times the units in one. -/
theorem rank?_of_toInt? {x : Binary64} {n : Int} (h : x.toInt? = some n) :
    x.rank? = some (n * unitsPerOne) := by
  -- Only a finite number is whole.
  cases x with
  | finite negative units fits =>
    simp only [toInt?, Option.ite_none_right_eq_some, Option.some.injEq] at h
    obtain ⟨hwhole, hn⟩ := h
    have hunits : units / unitsPerOne * unitsPerOne = units :=
      Nat.div_mul_cancel (Nat.dvd_of_mod_eq_zero hwhole)
    rw [rank?, Option.some.injEq, ← hn, ← place_mul, hunits]
  | infinite _ => cases h
  | nan => cases h

/-- A finite number with the place of an integer is this integer. -/
theorem toInt?_of_rank? {x : Binary64} {n : Int} (hfinite : x.isFinite = true)
    (h : x.rank? = some (n * unitsPerOne)) : x.toInt? = some n := by
  cases x with
  -- The units are those of the integer, since signs and magnitudes agree.
  | finite negative units hfits =>
    rw [rank?, Option.some.injEq] at h
    have hpos : (unitsPerOne : Int) ≠ 0 := by
      have hunits := unitsPerOne_pos
      omega
    have hunits : units = n.natAbs * unitsPerOne := by
      rw [← natAbs_place negative units, h, Int.natAbs_mul, Int.natAbs_natCast]
    subst hunits
    rw [place_mul] at h
    rw [toInt?_natural, Int.eq_of_mul_eq_mul_right hpos h]
  | infinite negative => cases hfinite
  | nan => cases hfinite

/-- A number that is the integer zero is a zero. -/
theorem isZero_of_toInt? {x : Binary64} (h : x.toInt? = some 0) : x.isZero = true := by
  cases x with
  | finite negative units hfits =>
    have hrank := rank?_of_toInt? h
    rw [rank?, Option.some.injEq, Int.zero_mul] at hrank
    rw [isZero_finite, ← natAbs_place negative units, hrank]
    rfl
  | infinite negative => cases h
  | nan => cases h

/-- Apart from the zeros, finite numbers with the same value are the same. -/
theorem eq_of_sameValue {x y : Binary64} (hx : x.isFinite = true) (hy : y.isFinite = true)
    (hzero : x.isZero = false) (h : x.sameValue y = true) : x = y := by
  obtain ⟨rank, hrank, hrank'⟩ := sameValue_iff.mp h
  -- The same place means the same number of units, and the same sign unless there are none.
  cases x with
  | finite negative units hfits =>
    cases y with
    | finite negative' units' hfits' =>
      rw [isZero_finite, beq_eq_false_iff_ne] at hzero
      rw [rank?, Option.some.injEq] at hrank hrank'
      obtain rfl : units = units' := by
        rw [← natAbs_place negative units, ← natAbs_place negative' units', hrank, hrank']
      obtain rfl : negative = negative' := by
        rw [← hrank'] at hrank
        cases negative <;> cases negative' <;> simp at hrank ⊢ <;> omega
      rfl
    | infinite negative' => cases hy
    | nan => cases hy
  | infinite negative => cases hx
  | nan => cases hx

/-! ### Rounding integers -/

/-- A short integer is not rounded. -/
theorem rank?_ofInt_of_lt {n : Int} (h : n.natAbs < 2 ^ 53) :
    (ofInt n).rank? = some (n * unitsPerOne) := by
  unfold ofInt
  -- There are so few digits that the integer is a number of the format.
  rw [nearest_of_representable _ (representable_natural h), rank?, Option.some.injEq]
  rw [place_mul, place_natAbs]

/-- What is rounded to a multiple of a step does not fall below a multiple of the step. -/
theorem le_roundToMultiple {num step bound : Nat} (hstep : step ∣ bound) (h : bound ≤ num) :
    bound ≤ roundToMultiple num 1 step := by
  -- The multiple below the number is at least the bound, and rounding starts from there.
  have hquotient : bound ≤ num / step * step := by
    calc bound = bound / step * step := (Nat.div_mul_cancel hstep).symm
      _ ≤ num / step * step := Nat.mul_le_mul_right step (Nat.div_le_div_right h)
  unfold roundToMultiple
  simp only [Nat.one_mul]
  split
  · exact hquotient
  · exact Nat.le_trans hquotient (Nat.mul_le_mul_right step (Nat.le_succ _))

/-- A long integer is rounded to one that is not shorter. -/
theorem exists_rank?_ofInt_of_le {n : Int} (h : 2 ^ 53 ≤ n.natAbs) :
    ∃ rank, (ofInt n).rank? = some rank ∧ 2 ^ 53 * unitsPerOne ≤ rank.natAbs := by
  -- The digits of the bound are counted by a variable, so that no power of two is computed.
  obtain ⟨top, htop⟩ : ∃ top, top = 53 + 1074 := ⟨_, rfl⟩
  have hbound : 2 ^ 53 * unitsPerOne = 2 ^ top := by
    rw [htop, Nat.pow_add, unitsPerOne, Nat.one_shiftLeft]
  have hnum : 2 ^ top ≤ n.natAbs * unitsPerOne :=
    hbound ▸ Nat.mul_le_mul_right unitsPerOne h
  have hne : n.natAbs * unitsPerOne ≠ 0 :=
    (Nat.lt_of_lt_of_le (Nat.two_pow_pos top) hnum).ne'
  have hlog : top ≤ (n.natAbs * unitsPerOne).log2 := (Nat.le_log2 hne).mpr hnum
  -- The power of two below the magnitude is a multiple of the step that it is rounded to.
  have hdvd : 1 <<< excess (n.natAbs * unitsPerOne) ∣ 2 ^ (n.natAbs * unitsPerOne).log2 := by
    rw [Nat.one_shiftLeft]
    refine Nat.pow_dvd_pow 2 ?_
    unfold excess
    omega
  have hround : 2 ^ top ≤ roundToMultiple (n.natAbs * unitsPerOne) 1
      (1 <<< excess (n.natAbs * unitsPerOne)) := by
    calc 2 ^ top ≤ 2 ^ (n.natAbs * unitsPerOne).log2 :=
          Nat.pow_le_pow_right Nat.two_pos hlog
      _ ≤ _ := le_roundToMultiple hdvd (Nat.log2_self_le hne)
  have hbeyond : ∀ bits, top ≤ bits → 2 ^ top ≤ 1 <<< bits := by
    intro bits hbits
    rw [Nat.one_shiftLeft]
    exact Nat.pow_le_pow_right Nat.two_pos hbits
  rw [hbound]
  unfold ofInt nearest ofUnits
  rw [Nat.div_one]
  -- The infinities are farther away than all finite numbers.
  split
  · exact ⟨_, rfl, hround.trans_eq (natAbs_place _ _).symm⟩
  · exact ⟨_, rfl, (hbeyond 2098 (by omega)).trans_eq (natAbs_place _ _).symm⟩

/-- **Integers whose numbers have the same value** are the same, or both are long. -/
theorem sameValue_ofInt {m n : Int} (h : (ofInt m).sameValue (ofInt n) = true) :
    m = n ∨ (2 ^ 53 ≤ m.natAbs ∧ 2 ^ 53 ≤ n.natAbs) := by
  have hpos : 0 < unitsPerOne := unitsPerOne_pos
  obtain ⟨rank, hm, hn⟩ := sameValue_iff.mp h
  -- The number of a short integer is closer to zero than that of a long one.
  have hshort : ∀ {short long : Int}, short.natAbs < 2 ^ 53 → 2 ^ 53 ≤ long.natAbs →
      (ofInt short).rank? = some rank → (ofInt long).rank? ≠ some rank := by
    intro short long hlt hle hrank hrank'
    obtain ⟨far, hfar, hbound⟩ := exists_rank?_ofInt_of_le hle
    rw [rank?_ofInt_of_lt hlt, Option.some.injEq] at hrank
    rw [hfar, Option.some.injEq] at hrank'
    rw [hrank', ← hrank, Int.natAbs_mul, Int.natAbs_natCast] at hbound
    exact absurd (Nat.le_of_mul_le_mul_right hbound hpos) (Nat.not_le_of_lt hlt)
  -- Both short, both long, or one of each, which cannot be.
  rcases Nat.lt_or_ge m.natAbs (2 ^ 53) with hmShort | hmLong
  · rcases Nat.lt_or_ge n.natAbs (2 ^ 53) with hnShort | hnLong
    · rw [rank?_ofInt_of_lt hmShort, Option.some.injEq] at hm
      rw [rank?_ofInt_of_lt hnShort, Option.some.injEq] at hn
      have hunits : (unitsPerOne : Int) ≠ 0 := by omega
      exact Or.inl (Int.eq_of_mul_eq_mul_right hunits (hm.trans hn.symm))
    · exact absurd hn (hshort hmShort hnLong hm)
  · rcases Nat.lt_or_ge n.natAbs (2 ^ 53) with hnShort | hnLong
    · exact absurd hm (hshort hnShort hmLong hn)
    · exact Or.inr ⟨hmLong, hnLong⟩

end Binary64

end DocumentApi
