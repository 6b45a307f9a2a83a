import DocumentApi.Proofs.Bson.Scalar
import DocumentApi.Proofs.Matching.Selection

/-!
# Questions for booleans and numbers

A question for a boolean or a number (`Criterion.expected?`) is about equality, and looks at the
values that its path leads to. If the path has no dots, this is the value of one field, and if the
value is a boolean, a number or a text, there is nothing else to look at:

* `Matching.isEqualTo_of_answer` — a document that satisfies criteria with such a question holds a
  scalar that is equal to what the question expects;
* `Matching.same_of_isEqualTo` — scalars that are equal to the same boolean or number are equal to
  each other.
-/

namespace DocumentApi

/-- The boolean or number that a question expects, if it expects one. -/
def Criterion.expected? : Criterion → Option Bson
  | .bool value => some (.bool value)
  | .int value => some (.int64 value)
  | .double value => some (.double value)
  | _ => none

namespace Document

variable {document : Document} {field : String} {value : Bson}

/-- A path without dots leads to the value under its name. -/
theorem mem_resolve_iff (h : segments field = [field]) :
    value ∈ document.resolve field ↔ Fields.get? document field = some value := by
  unfold resolve
  -- There is no array on a path of one name, so that the lookup decides.
  rw [h]
  change value ∈ (Fields.get? document field).toList ↔ _
  rw [Option.mem_toList]

/-- There is nothing to look at but the scalar itself. -/
theorem candidates_of_isScalar (h : segments field = [field])
    (hvalue : value ∈ document.resolve field) (hscalar : value.isScalar = true) :
    document.candidates field = [value] := by
  rw [mem_resolve_iff h] at hvalue
  have hresolve : document.resolve field = [value] := by
    unfold resolve
    rw [h]
    change (Fields.get? document field).toList = [value]
    rw [hvalue, Option.toList_some]
  unfold candidates
  rw [hresolve, List.flatMap_singleton]
  -- A scalar is looked at itself; only an array is looked into.
  cases value with
  | array items => cases hscalar
  | _ => rfl

end Document

namespace Matching

variable {engine : PatternEngine} {criteria : Criteria} {criterion : Criterion}
  {document : Document} {field : String} {value expected : Bson}

/-- A question that expects a boolean or a number is about equality. -/
theorem meaningAt_of_expected? (h : criterion.expected? = some expected) :
    (meaning engine document).meaningAt field criterion
      = pure ((document.candidates field).any (isEqualTo expected)) := by
  -- By the question; the others expect no boolean and no number.
  cases criterion with
  | bool value =>
    cases h
    rfl
  | int value =>
    cases h
    rfl
  | double value =>
    cases h
    rfl
  | _ => cases h

/-- If a document that holds a scalar satisfies criteria that ask for a boolean or a number, then
the scalar is equal to it. -/
theorem isEqualTo_of_answer (hfield : segments field = [field])
    (hvalue : value ∈ document.resolve field) (hscalar : value.isScalar = true)
    (hleaf : (field, criterion) ∈ criteria.leaves) (hexpected : criterion.expected? = some expected)
    (h : answer engine criteria document = .ok true) : isEqualTo expected value = true := by
  have hcandidates := Document.candidates_of_isScalar hfield hvalue hscalar
  by_contra hne
  -- The one value is not equal, so that the question is answered by no.
  have hmeaning : (meaning engine document).meaningAt field criterion = pure false := by
    rw [meaningAt_of_expected? hexpected, hcandidates, List.any_cons, List.any_nil, Bool.or_false,
      Bool.eq_false_iff.mpr hne]
  exact absurd (answer_eq_false hleaf hmeaning h) (by decide)

/-- Two values that are equal to the same boolean are this boolean, and two that are equal to the
same number have the same value. -/
theorem same_of_isEqualTo {other : Bson} (hexpected : criterion.expected? = some expected)
    (hvalue : isEqualTo expected value = true) (hother : isEqualTo expected other = true) :
    (∃ flag, criterion = .bool flag ∧ value = .bool flag ∧ other = .bool flag) ∨
      ((∀ flag, criterion ≠ .bool flag) ∧ value.comparable.same other.comparable = true) := by
  -- Numbers that have the value of a third one have the same value.
  have hnumber : ∀ {x : Binary64}, value.comparable.same (.number x) = true →
      other.comparable.same (.number x) = true →
        value.comparable.same other.comparable = true := by
    intro x hx hx'
    obtain ⟨y, hy, hyx⟩ := Bson.same_comparable_number_iff.mp hx
    obtain ⟨z, hz, hzx⟩ := Bson.same_comparable_number_iff.mp hx'
    rw [Binary64.sameValue_comm] at hzx
    rw [Bson.comparable_of_number? hy, Bson.comparable_of_number? hz]
    exact Binary64.sameValue_trans hyx hzx
  cases criterion with
  -- A boolean equals itself alone, and numbers go through the one that is expected.
  | bool flag =>
    cases hexpected
    exact Or.inl ⟨flag, rfl, Bson.same_comparable_bool_iff.mp hvalue,
      Bson.same_comparable_bool_iff.mp hother⟩
  | int value =>
    cases hexpected
    exact Or.inr ⟨by simp, hnumber hvalue hother⟩
  | double value =>
    cases hexpected
    exact Or.inr ⟨by simp, hnumber hvalue hother⟩
  | _ => cases hexpected

end Matching

end DocumentApi
