import DocumentApi.Bson.Comparable
import DocumentApi.Proofs.Bson.WellFormed

/-!
# Two equalities of scalars

Stored values are compared in two ways: a unique index takes them as they are stored
(`Bson.same`), and a query takes all numbers by their values (`Comparable.same`). For booleans,
numbers and texts

* `Bson.same_comparable_iff` — values are equal to a query if they are equal to an index, or if they
  are numbers of the same value that are stored apart (`Bson.StoredApart`): as different types, or
  as different integers of 64 bits, both of which are too long for a binary64.
-/

namespace DocumentApi

/-- A number that comes from an integer has a place among the values. -/
theorem Binary64.sameValue_ofInt_self (n : Int) : (ofInt n).sameValue (ofInt n) = true := by
  -- The nearest number of a single integer is never the value that is no number.
  obtain ⟨rank, hrank⟩ : ∃ rank, (ofInt n).rank? = some rank := by
    unfold ofInt nearest ofUnits
    split <;> exact ⟨_, rfl⟩
  exact sameValue_iff.mpr ⟨rank, hrank, hrank⟩

namespace Bson

/-- Whether a value is a boolean, a number or a text. -/
def isScalar : Bson → Bool
  | .bool _ | .int32 _ | .int64 _ | .double _ | .string _ => true
  | _ => false

/-- The number that a query sees in a value, if it sees one. -/
def number? : Bson → Option Binary64
  | .int32 value => some (.ofInt value.toInt)
  | .int64 value => some (.ofInt value.toInt)
  | .double value => some value
  | _ => none

/-- A scalar that is no number is a boolean or a text. -/
theorem isScalar_cases {value : Bson} (h : value.isScalar = true) :
    (∃ x, value.number? = some x) ∨ (∃ flag, value = .bool flag) ∨ ∃ text, value = .string text := by
  cases value with
  | bool flag => exact Or.inr (Or.inl ⟨flag, rfl⟩)
  | string text => exact Or.inr (Or.inr ⟨text, rfl⟩)
  | int32 value => exact Or.inl ⟨_, rfl⟩
  | int64 value => exact Or.inl ⟨_, rfl⟩
  | double value => exact Or.inl ⟨_, rfl⟩
  | _ => cases h

/-- A scalar has no fields. -/
theorem wellFormed_of_isScalar {value : Bson} (h : value.isScalar = true) :
    value.WellFormed := by
  cases value with
  | array _ => cases h
  | document _ => cases h
  | codeWithScope _ _ => cases h
  | _ => trivial

/-! ### Equality to a query -/

theorem comparable_of_number? {value : Bson} {x : Binary64} (h : value.number? = some x) :
    value.comparable = .number x := by
  cases value with
  | int32 value => exact congrArg Comparable.number (Option.some.inj h)
  | int64 value => exact congrArg Comparable.number (Option.some.inj h)
  | double value => exact congrArg Comparable.number (Option.some.inj h)
  | _ => cases h

/-- What a query for a number finds are the numbers of the same value. -/
theorem same_comparable_number_iff {value : Bson} {y : Binary64} :
    value.comparable.same (.number y) = true ↔
      ∃ x, value.number? = some x ∧ x.sameValue y = true := by
  constructor
  · intro h
    cases value with
    | int32 value => exact ⟨_, rfl, h⟩
    | int64 value => exact ⟨_, rfl, h⟩
    | double value => exact ⟨_, rfl, h⟩
    -- Values of all other types are equal to no number.
    | _ => simp [comparable, Comparable.same] at h
  · rintro ⟨x, hx, hvalue⟩
    rw [comparable_of_number? hx]
    exact hvalue

/-- What a query for a boolean finds is this boolean. -/
theorem same_comparable_bool_iff {value : Bson} {flag : Bool} :
    value.comparable.same (.bool flag) = true ↔ value = .bool flag := by
  cases value <;> simp [comparable, Comparable.same]

/-- What a query for a text finds is this text. -/
theorem same_comparable_string_iff {value : Bson} {text : String} :
    value.comparable.same (.string text) = true ↔ value = .string text := by
  cases value <;> simp [comparable, Comparable.same]

/-! ### Equality to an index -/

/-- Whether two values are numbers of the same value that an index takes for different ones. -/
structure StoredApart (a b : Bson) : Prop where
  sameValue : ∃ x y, a.number? = some x ∧ b.number? = some y ∧ x.sameValue y = true
  apart : a.typeName ≠ b.typeName ∨ ∃ m n : Int64, a = .int64 m ∧ b = .int64 n ∧ m ≠ n ∧
    2 ^ 53 ≤ m.toInt.natAbs ∧ 2 ^ 53 ≤ n.toInt.natAbs

/-- What is equal to a number for an index is a number of the same value. -/
theorem exists_number?_of_same {a b : Bson} {y : Binary64} (hb : b.number? = some y)
    (h : a.same b = true) : ∃ x, a.number? = some x ∧ x.sameValue y = true := by
  -- An index compares numbers of one type with each other only.
  cases b with
  | int32 n =>
    cases a with
    | int32 m =>
      cases hb
      rw [same, beq_iff_eq] at h
      -- The integers are equal, so they are the same number.
      exact ⟨_, rfl, h ▸ Binary64.sameValue_ofInt_self m.toInt⟩
    | _ => simp [same] at h
  | int64 n =>
    cases a with
    | int64 m =>
      cases hb
      rw [same, beq_iff_eq] at h
      exact ⟨_, rfl, h ▸ Binary64.sameValue_ofInt_self m.toInt⟩
    | _ => simp [same] at h
  | double value =>
    cases a with
    | double value' =>
      cases hb
      rw [same] at h
      exact ⟨_, rfl, h⟩
    | _ => simp [same] at h
  | _ => cases hb

theorem same_bool_iff {value : Bson} {flag : Bool} :
    value.same (.bool flag) = true ↔ value = .bool flag := by
  cases value <;> simp [same]

theorem same_string_iff {value : Bson} {text : String} :
    value.same (.string text) = true ↔ value = .string text := by
  cases value <;> simp [same]

/-- Numbers of one type have the same value if they are equal to an index, unless they are long. -/
theorem same_or_storedApart {a b : Bson} {x y : Binary64} (ha : a.number? = some x)
    (hb : b.number? = some y) (h : x.sameValue y = true) : a.same b = true ∨ StoredApart a b := by
  -- By whether the types agree. If they do not, then the numbers are stored apart already.
  by_cases htypes : a.typeName = b.typeName
  · cases a with
    | int32 m =>
      cases b with
      | int32 n =>
        -- Integers of 32 bits are short.
        cases ha
        cases hb
        have hshort := m.toInt_lt
        have hshort' := m.le_toInt
        have hmn : m.toInt = n.toInt := (Binary64.sameValue_ofInt h).resolve_right (by omega)
        refine Or.inl ?_
        rw [same, Int32.toInt_inj.mp hmn]
        exact beq_self_eq_true n
      | int64 _ => simp [typeName] at htypes
      | double _ => simp [typeName] at htypes
      | _ => cases hb
    | int64 m =>
      cases b with
      | int64 n =>
        cases ha
        cases hb
        -- Different integers that have one double in common are both long.
        by_cases hmn : m = n
        · refine Or.inl ?_
          rw [same, hmn]
          exact beq_self_eq_true n
        · have hlong := (Binary64.sameValue_ofInt h).resolve_left
            fun heq => hmn (Int64.toInt_inj.mp heq)
          exact Or.inr ⟨⟨_, _, rfl, rfl, h⟩, Or.inr ⟨m, n, rfl, rfl, hmn, hlong⟩⟩
      | int32 _ => simp [typeName] at htypes
      | double _ => simp [typeName] at htypes
      | _ => cases hb
    | double value =>
      cases b with
      | double value' =>
        cases ha
        cases hb
        -- Doubles are compared in the same way by both.
        exact Or.inl h
      | int32 _ => simp [typeName] at htypes
      | int64 _ => simp [typeName] at htypes
      | _ => cases hb
    | _ => cases ha
  · exact Or.inr ⟨⟨x, y, ha, hb, h⟩, Or.inl htypes⟩

/-- **The two equalities of scalars** differ in numbers that are stored apart. -/
theorem same_comparable_iff {a b : Bson} (hb : b.isScalar = true) :
    a.comparable.same b.comparable = true ↔ a.same b = true ∨ StoredApart a b := by
  rcases isScalar_cases hb with ⟨y, hy⟩ | ⟨flag, rfl⟩ | ⟨text, rfl⟩
  · -- Numbers, in both directions.
    rw [comparable_of_number? hy, same_comparable_number_iff]
    constructor
    · rintro ⟨x, hx, hvalue⟩
      exact same_or_storedApart hx hy hvalue
    · rintro (h | ⟨⟨x, y', hx, hy', hvalue⟩, -⟩)
      · exact exists_number?_of_same hy h
      · rw [hy, Option.some.injEq] at hy'
        exact ⟨x, hx, hy' ▸ hvalue⟩
  -- Booleans and texts are no numbers, and there is one way of storing them.
  · rw [comparable, same_comparable_bool_iff, same_bool_iff]
    refine (or_iff_left ?_).symm
    rintro ⟨⟨_, _, _, hnumber, _⟩, _⟩
    cases hnumber
  · rw [comparable, same_comparable_string_iff, same_string_iff]
    refine (or_iff_left ?_).symm
    rintro ⟨⟨_, _, _, hnumber, _⟩, _⟩
    cases hnumber

end Bson

end DocumentApi
