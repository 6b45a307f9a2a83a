import DocumentApi.Store
import Mathlib.Data.Nat.Init

/-!
# Runs

A store changes by one step after another, whatever the steps are: calls of its operations, or whole
requests. `Store.reached` is the store after the first steps of a list, starting from the empty
store; stores after all of them are the one after the last.

* `Store.reached_induction` — what holds of the empty store and is kept by every step of a run holds
  of every store that is reached;
* `Store.reached_le_induction` — the same from some store of the run on.
-/

namespace DocumentApi

namespace Store

variable {α : Type} (step : Store → α → Store)

/-- **The stores of a run**: the store after so many of some steps. -/
def reached (steps : List α) (count : Nat) : Store :=
  (steps.take count).foldl step .empty

variable {steps : List α}

theorem reached_succ {count : Nat} {next : α} (h : steps[count]? = some next) :
    reached step steps (count + 1) = step (reached step steps count) next := by
  unfold reached
  rw [List.take_add_one, h, Option.toList_some, List.foldl_append, List.foldl_cons, List.foldl_nil]

theorem reached_succ_of_none {count : Nat} (h : steps[count]? = none) :
    reached step steps (count + 1) = reached step steps count := by
  unfold reached
  rw [List.take_add_one, h, Option.toList_none, List.append_nil]

/-- **Invariants from some store of a run on.** -/
theorem reached_le_induction {motive : Store → Prop} {start : Nat}
    (hstart : motive (reached step steps start))
    (hstep : ∀ count next, start ≤ count → steps[count]? = some next →
      motive (reached step steps count) → motive (step (reached step steps count) next))
    {count : Nat} (hcount : start ≤ count) : motive (reached step steps count) := by
  induction count, hcount using Nat.le_induction with
  | base => exact hstart
  | succ count hcount ih =>
    -- There is a further step, or the list has ended.
    cases hnext : steps[count]? with
    | none =>
      -- Behind the last step the store stays.
      rw [reached_succ_of_none step hnext]
      exact ih
    | some next =>
      rw [reached_succ step hnext]
      exact hstep count next hcount hnext ih

/-- **Invariants of a run.** -/
theorem reached_induction {motive : Store → Prop} (hempty : motive .empty)
    (hstep : ∀ count next, steps[count]? = some next →
      motive (reached step steps count) → motive (step (reached step steps count) next))
    (count : Nat) : motive (reached step steps count) :=
  reached_le_induction step hempty (fun count next _ => hstep count next) (Nat.zero_le count)

end Store

end DocumentApi
