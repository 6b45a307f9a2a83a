import DocumentApi.Error

/-!
# Bounded retry

An operation that may fail for a while is tried a bounded number of times with a pause between the
attempts. `RetryPolicy.run` stops at the first success, and gives the outcome of the last attempt.
-/

namespace DocumentApi

/-- How often an operation is tried, and how long the pauses are. -/
structure RetryPolicy where
  /-- The attempts, with the first one; zero counts as one. -/
  maxAttempts : UInt32
  /-- The milliseconds between two attempts. -/
  delayMillis : UInt64
  deriving DecidableEq

namespace RetryPolicy

/-- A hundred attempts with a quarter of a second between them. -/
def standard : RetryPolicy := ⟨100, 250⟩

instance : Inhabited RetryPolicy := ⟨standard⟩

/-- A single attempt. -/
def once : RetryPolicy := ⟨1, 0⟩

/-- The policy with a pause of the given length, of which whole milliseconds count. -/
def ofPause (maxAttempts : UInt32) (seconds nanos : Nat) : RetryPolicy :=
  ⟨maxAttempts, UInt64.ofNat (seconds * 1000 + nanos / 1000000)⟩

/-- The pause in seconds and nanoseconds. -/
def pause (policy : RetryPolicy) : Nat × Nat :=
  (policy.delayMillis.toNat / 1000, policy.delayMillis.toNat % 1000 * 1000000)

/-- The number of attempts that the policy allows. -/
def attempts (policy : RetryPolicy) : UInt32 :=
  max policy.maxAttempts 1

/-- Below a bound, counting does not leave the 32 bits. -/
theorem toNat_succ_of_lt {attempt bound : UInt32} (h : attempt < bound) :
    (attempt + 1).toNat = attempt.toNat + 1 := by
  have hlt : attempt.toNat < bound.toNat := UInt32.lt_iff_toNat_lt.mp h
  have hbound : bound.toNat < 2 ^ 32 := bound.toNat_lt
  rw [UInt32.toNat_add, UInt32.toNat_one, Nat.mod_eq_of_lt (by omega)]

variable {m : Type → Type} [Monad m] {α : Type}

/-- Tries attempt number `attempt` and, while attempts are left, those after it, with a pause before
each further one. The attempts are counted in 32 bits. -/
def runFrom (policy : RetryPolicy) (sleep : Nat × Nat → m Unit)
    (operation : UInt32 → m (Except StoreError α)) (attempt : UInt32) :
    m (Except StoreError α) := do
  match ← operation attempt with
  | .ok value => return .ok value
  | .error failure =>
    if attempt < policy.attempts then
      sleep policy.pause
      runFrom policy sleep operation (attempt + 1)
    else return .error failure
termination_by policy.attempts.toNat - attempt.toNat
decreasing_by
  rw [toNat_succ_of_lt ‹_›]
  exact Nat.sub_succ_lt_self _ _ (UInt32.lt_iff_toNat_lt.mp ‹_›)

/-- Tries an operation, which is told the number of the attempt from one, until it succeeds or the
attempts are used up; the last outcome counts. The pauses have the length that the policy says. -/
def run (policy : RetryPolicy) (sleep : Nat × Nat → m Unit)
    (operation : UInt32 → m (Except StoreError α)) : m (Except StoreError α) :=
  policy.runFrom sleep operation 1

end RetryPolicy

end DocumentApi
