import DocumentApi.Bson.Comparable

/-!
# Sorting in two directions

Sorting downwards compares the second value with the first one. This is the same as turning the
order of the two around (`Comparable.compare_swap`), also where values of one type have no order and
tie, so that two values tie in one direction if and only if they tie in the other
(`Comparable.compareToward_eq_eq`).
-/

namespace DocumentApi

theorem Binary64.compare?_swap (a b : Binary64) :
    (a.compare? b).map Ordering.swap = b.compare? a := by
  unfold compare?
  -- A value without a rank is not compared, on either side.
  cases a.rank? with
  | none => cases b.rank? <;> rfl
  | some x =>
    cases b.rank? with
    | none => rfl
    | some y => exact congrArg some (Int.compare_swap x y)

namespace Comparable

theorem valueOrder?_swap (a b : Comparable) :
    (valueOrder? a b).map Ordering.swap = valueOrder? b a := by
  -- Values of different types have no order, whichever comes first.
  cases a with
  | number x =>
    cases b with
    | number y => exact Binary64.compare?_swap x y
    | _ => rfl
  | string x =>
    cases b with
    | string y =>
      -- Texts are compared by `<` and `=`, so that the laws of a total order turn the result
      -- around.
      refine congrArg some (compareOfLessAndEq_eq_swap ?_ ?_ ?_).symm
      · exact fun hle hge => String.le_antisymm hle hge
      · exact String.le_total
      · exact String.not_le
    | _ => rfl
  | objectId x =>
    cases b with
    | objectId y => exact congrArg some (Nat.compare_swap x.val y.val)
    | _ => rfl
  | bool x =>
    cases b with
    | bool y => cases x <;> cases y <;> rfl
    | _ => rfl
  | date x =>
    cases b with
    | date y => exact congrArg some (Int.compare_swap x.toInt y.toInt)
    | _ => rfl
  | _ => cases b <;> rfl

/-- **Turning two values around** turns their order around. -/
theorem compare_swap (a b : Comparable) : (compare a b).swap = compare b a := by
  have hvalues : ((valueOrder? a b).getD .eq).swap = (valueOrder? b a).getD .eq := by
    -- A type with no order of its own ties in both directions.
    rw [← valueOrder?_swap a b]
    cases valueOrder? a b <;> rfl
  unfold compare
  -- The class of types decides first, and then the values do; both are turned around.
  rw [Ordering.swap_then, Nat.compare_swap, hvalues]

/-- Values tie in one direction exactly if they tie in the other. -/
theorem compareToward_eq_eq {direction : SortDirection} {a b : Comparable} :
    compareToward direction a b = .eq ↔ compare a b = .eq := by
  cases direction with
  | ascending => exact Iff.rfl
  | descending =>
    -- Downwards the values are exchanged, which turns a tie into a tie.
    change compare b a = .eq ↔ _
    rw [← compare_swap a b, Ordering.swap_eq_eq]

end Comparable

end DocumentApi
