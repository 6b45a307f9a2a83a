import Mathlib.Data.List.Forall2

/-!
# Steps that succeed

What is made in several steps, each of which may fail, is made only if all of them succeed. These
lemmas take such a result apart, one step at a time. For one step after another along a list there
is a result for every item (`mapM_eq_ok_iff`), or the failure is that of the first item without one
(`mapM_eq_error_iff`).
-/

namespace DocumentApi

theorem exists_of_bind_eq_ok {ε α β : Type} {first : Except ε α} {next : α → Except ε β}
    {result : β} (h : first >>= next = .ok result) :
    ∃ value, first = .ok value ∧ next value = .ok result := by
  cases first with
  | error failure => cases h
  | ok value => exact ⟨value, rfl, h⟩

theorem exists_of_map_eq_ok {ε α β : Type} {first : Except ε α} {change : α → β} {result : β}
    (h : first.map change = .ok result) : ∃ value, first = .ok value ∧ change value = result := by
  cases first with
  | error failure => cases h
  | ok value => exact ⟨value, rfl, Except.ok.inj h⟩

theorem eq_ok_of_mapError_eq_ok {ε ε' α : Type} {first : Except ε α} {change : ε → ε'} {result : α}
    (h : first.mapError change = .ok result) : first = .ok result := by
  cases first with
  | error failure => cases h
  | ok value => rw [Except.ok.inj h]

/-- Changing a result leaves a failure as it is. -/
theorem map_eq_error_iff {ε α β : Type} {first : Except ε α} {change : α → β} {failure : ε} :
    first.map change = .error failure ↔ first = .error failure := by
  cases first with
  | error other => exact ⟨fun h => congrArg _ (Except.error.inj h), fun h => by rw [h]; rfl⟩
  | ok value => exact iff_of_false (fun h => by cases h) fun h => by cases h

/-- Changing a failure leaves a result as it is. -/
theorem mapError_eq_error_iff {ε ε' α : Type} {first : Except ε α} {change : ε → ε'} {failure : ε'} :
    first.mapError change = .error failure ↔ ∃ cause, first = .error cause ∧ failure = change cause := by
  cases first with
  | error cause =>
    constructor
    · exact fun h => ⟨cause, rfl, (Except.error.inj h).symm⟩
    · rintro ⟨_, ⟨⟩, rfl⟩
      rfl
  | ok value => exact iff_of_false (fun h => by cases h) fun ⟨_, h, _⟩ => by cases h

section Items

variable {ε α β : Type} {step : α → Except ε β} {items : List α}

/-- All items have results, if each of them has one. -/
theorem exists_forall₂_iff {relates : α → β → Prop} :
    (∃ results, List.Forall₂ relates items results)
      ↔ ∀ item ∈ items, ∃ result, relates item result := by
  induction items with
  | nil => exact iff_of_true ⟨[], .nil⟩ fun _ hitem => absurd hitem List.not_mem_nil
  | cons item rest ih =>
    rw [List.forall_mem_cons, ← ih]
    -- The first item and the others have results of their own.
    constructor
    · rintro ⟨results, hresults⟩
      cases hresults with
      | cons hfirst hothers => exact ⟨⟨_, hfirst⟩, ⟨_, hothers⟩⟩
    · rintro ⟨⟨first, hfirst⟩, ⟨others, hothers⟩⟩
      exact ⟨first :: others, .cons hfirst hothers⟩

theorem mapM_eq_ok_iff {results : List β} :
    items.mapM step = .ok results
      ↔ List.Forall₂ (fun item result => step item = .ok result) items results := by
  induction items generalizing results with
  -- Nothing to do has one result.
  | nil =>
    rw [List.mapM_nil, List.forall₂_nil_left_iff]
    exact ⟨fun h => (Except.ok.inj h).symm, fun h => congrArg Except.ok h.symm⟩
  | cons item rest ih =>
    rw [List.mapM_cons, List.forall₂_cons_left_iff]
    constructor
    · -- The steps are taken in order, so that the first result comes first.
      intro h
      obtain ⟨first, hfirst, h⟩ := exists_of_bind_eq_ok h
      obtain ⟨others, hothers, h⟩ := exists_of_bind_eq_ok h
      exact ⟨first, others, hfirst, ih.mp hothers, (Except.ok.inj h).symm⟩
    · rintro ⟨first, others, hfirst, hothers, rfl⟩
      rw [hfirst, ih.mpr hothers]
      rfl

/-- In a list with one item more, the first item of a kind is this one, or comes behind it. -/
theorem exists_split_cons_iff {passes stops : α → Prop} {first : α} {rest : List α} :
    (∃ before item after, first :: rest = before ++ item :: after ∧
        (∀ earlier ∈ before, passes earlier) ∧ stops item)
      ↔ stops first ∨ passes first ∧ ∃ before item after, rest = before ++ item :: after ∧
          (∀ earlier ∈ before, passes earlier) ∧ stops item := by
  constructor
  · rintro ⟨before, item, after, hitems, hbefore, hitem⟩
    cases before with
    | nil =>
      obtain ⟨rfl, -⟩ := List.cons.inj hitems
      exact Or.inl hitem
    | cons earlier before =>
      obtain ⟨rfl, rfl⟩ := List.cons.inj hitems
      obtain ⟨hfirst, hbefore⟩ := List.forall_mem_cons.mp hbefore
      exact Or.inr ⟨hfirst, before, item, after, rfl, hbefore, hitem⟩
  · rintro (hfirst | ⟨hfirst, before, item, after, rfl, hbefore, hitem⟩)
    · exact ⟨[], first, rest, rfl, fun _ hmem => absurd hmem List.not_mem_nil, hfirst⟩
    · exact ⟨first :: before, item, after, rfl, List.forall_mem_cons.mpr ⟨hfirst, hbefore⟩, hitem⟩

/-- **The first failure** is the failure of all: what comes behind it is not looked at. -/
theorem mapM_eq_error_iff {failure : ε} :
    items.mapM step = .error failure
      ↔ ∃ before item after, items = before ++ item :: after ∧
          (∀ earlier ∈ before, ∃ result, step earlier = .ok result) ∧
          step item = .error failure := by
  induction items with
  | nil =>
    -- Without items nothing fails.
    rw [List.mapM_nil]
    refine iff_of_false (fun h => by cases h) ?_
    rintro ⟨before, item, after, h, -⟩
    exact absurd h.symm (List.append_ne_nil_of_right_ne_nil before (List.cons_ne_nil item after))
  | cons first rest ih =>
    rw [List.mapM_cons, exists_split_cons_iff, ← ih]
    cases hfirst : step first with
    | error other =>
      -- The first item fails, and what comes behind it does not count.
      constructor
      · exact fun h => Or.inl (by cases h; rfl)
      · rintro (h | ⟨⟨_, h⟩, -⟩)
        · exact congrArg Except.error (Except.error.inj h)
        · cases h
    | ok result =>
      -- The first item has a result, so that a failure comes from the rest.
      constructor
      · intro h
        refine Or.inr ⟨⟨result, rfl⟩, ?_⟩
        cases hrest : rest.mapM step with
        | error other =>
          rw [hrest] at h
          exact congrArg Except.error (Except.error.inj h)
        | ok others =>
          rw [hrest] at h
          cases h
      · rintro (h | ⟨-, h⟩)
        · cases h
        · rw [h]
          rfl

end Items

end DocumentApi
