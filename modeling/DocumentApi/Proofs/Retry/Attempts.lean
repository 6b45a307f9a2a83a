import DocumentApi.Retry
import Mathlib.Data.Nat.Notation

/-!
# The attempts of a retry

Trying an operation again and again is a search for its first success, bounded by the attempts that
the policy allows. Here the operation is given by the outcomes of its attempts, and all that a run
does is written down: the attempts with their numbers, and the pauses with their lengths.

* `RetryPolicy.EndsAt` — where a search for a success ends: at the first success or, if there is
  none, at the last number that is allowed. This is one number only (`EndsAt.unique`);
* `RetryPolicy.recordedFrom_eq` — one round: an attempt, and a pause if there is a further round;
* `RetryPolicy.exists_endsAt_recordedFrom` — the rounds from some attempt on, by induction on the
  attempts that are left;
* `RetryPolicy.exists_endsAt_recorded` — a whole run makes the attempts up to the end of the search,
  each once and in order, pauses between them, and gives the outcome of the last one.
-/

namespace DocumentApi

namespace RetryPolicy

variable {α : Type}

/-! ### Where a search ends -/

/-- Whether the search for a success among the numbers from `first` to `limit` ends at `last`: all
numbers before it fail, and it succeeds or is the last one that is allowed. -/
structure EndsAt (outcomes : Nat → Except StoreError α) (first limit last : Nat) : Prop where
  first_le : first ≤ last
  le_limit : last ≤ limit
  failed : ∀ number, first ≤ number → number < last → (outcomes number).isOk = false
  ended : (outcomes last).isOk = true ∨ last = limit

namespace EndsAt

variable {outcomes : Nat → Except StoreError α} {first limit last other : Nat}

/-- A search ends at its first number if there is nothing to go on for. -/
theorem self (hle : first ≤ limit) (h : (outcomes first).isOk = true ∨ first = limit) :
    EndsAt outcomes first limit first :=
  ⟨Nat.le_refl first, hle, fun _ hge hlt => absurd hlt (Nat.not_lt_of_le hge), h⟩

/-- A failure at the first number leaves the search among the numbers behind it. -/
theorem of_succ (hfirst : (outcomes first).isOk = false)
    (h : EndsAt outcomes (first + 1) limit last) : EndsAt outcomes first limit last := by
  refine ⟨Nat.le_of_succ_le h.first_le, h.le_limit, ?_, h.ended⟩
  intro number hge hlt
  -- The first number itself, or one behind it, where the rest of the search has failed.
  rcases Nat.eq_or_lt_of_le hge with rfl | hgt
  · exact hfirst
  · exact h.failed number hgt hlt

/-- A search does not go on behind its end. -/
private theorem not_lt (h : EndsAt outcomes first limit last)
    (hother : EndsAt outcomes first limit other) : ¬ last < other := by
  intro hlt
  -- The search has ended here with a success, which the longer one has seen fail, or for want of
  -- attempts.
  rcases h.ended with hok | hlimit
  · rw [hother.failed last h.first_le hlt] at hok
    cases hok
  · exact absurd hother.le_limit (by omega)

/-- **A search ends at one number only.** -/
theorem unique (h : EndsAt outcomes first limit last)
    (hother : EndsAt outcomes first limit other) : last = other :=
  Nat.le_antisymm (Nat.not_lt.mp (hother.not_lt h)) (Nat.not_lt.mp (h.not_lt hother))

end EndsAt

/-! ### What is recorded of a run -/

/-- What a run does. -/
inductive Event where
  /-- It makes the attempt of a number. -/
  | attempt (number : Nat)
  /-- It pauses for so many seconds and nanoseconds. -/
  | pause (length : Nat × Nat)
  deriving DecidableEq

/-- Writes down what is done, behind what has been done before. -/
def record (event : Event) : StateM (List Event) Unit :=
  modify (· ++ [event])

/-- An operation that writes down its attempts and has a given outcome for each of them. -/
def recordedOperation (outcomes : Nat → Except StoreError α) (number : UInt32) :
    StateM (List Event) (Except StoreError α) := do
  record (.attempt number.toNat)
  pure (outcomes number.toNat)

variable (policy : RetryPolicy) (outcomes : Nat → Except StoreError α)

/-- The outcome of the rounds from some attempt on, with all that has been done at their end. -/
def recordedFrom (attempt : UInt32) (events : List Event) : Except StoreError α × List Event :=
  (policy.runFrom (fun length => record (.pause length)) (recordedOperation outcomes) attempt).run
    events

/-- The outcome of a run, with all that it does. -/
def recorded : Except StoreError α × List Event :=
  (policy.run (fun length => record (.pause length)) (recordedOperation outcomes)).run []

/-- The attempts from one number to another, with a pause between each two of them. -/
def attemptsBetween (first last : Nat) : List Event :=
  ((List.range' first (last + 1 - first)).map .attempt).intersperse (.pause policy.pause)

theorem attemptsBetween_self (first : Nat) :
    policy.attemptsBetween first first = [.attempt first] := by
  unfold attemptsBetween
  rw [Nat.add_sub_cancel_left]
  rfl

theorem attemptsBetween_of_lt {first last : Nat} (h : first < last) :
    policy.attemptsBetween first last
      = .attempt first :: .pause policy.pause :: policy.attemptsBetween (first + 1) last := by
  unfold attemptsBetween
  have hmore : last + 1 - first = last - (first + 1) + 1 + 1 := by omega
  have hrest : last + 1 - (first + 1) = last - (first + 1) + 1 := by omega
  rw [hmore, hrest]
  rfl

/-! ### Rounds -/

/-- **One round.** The attempt is made; if it fails and further ones are allowed, a pause and the
next round follow. -/
theorem recordedFrom_eq (attempt : UInt32) (events : List Event) :
    policy.recordedFrom outcomes attempt events =
      if (outcomes attempt.toNat).isOk = false ∧ attempt < policy.attempts then
        policy.recordedFrom outcomes (attempt + 1)
          (events ++ [.attempt attempt.toNat, .pause policy.pause])
      else (outcomes attempt.toNat, events ++ [.attempt attempt.toNat]) := by
  unfold recordedFrom
  rw [runFrom]
  have hattempt : (recordedOperation outcomes attempt).run events
      = (outcomes attempt.toNat, events ++ [.attempt attempt.toNat]) := rfl
  rw [StateT.run_bind, hattempt]
  -- A success ends the run whatever is left; a failure does so only if no attempt is left.
  cases outcomes attempt.toNat with
  | ok value => rfl
  | error failure =>
    have hfailed : (Except.error failure : Except StoreError α).isOk = false := rfl
    by_cases hlt : attempt < policy.attempts
    · -- The pause is written behind the attempt, and the next round behind both.
      simp only [hlt, hfailed, and_self, if_true]
      change policy.recordedFrom outcomes (attempt + 1)
          ((events ++ [.attempt attempt.toNat]) ++ [.pause policy.pause])
        = policy.recordedFrom outcomes (attempt + 1) _
      rw [List.append_assoc]
      rfl
    · simp only [hlt, and_false, if_false]
      rfl

/-! ### Runs -/

/-- **The rounds from some attempt on** make the attempts up to the end of the search. -/
theorem exists_endsAt_recordedFrom {attempt : UInt32} (h : attempt ≤ policy.attempts)
    (events : List Event) :
    ∃ last, EndsAt outcomes attempt.toNat policy.attempts.toNat last ∧
      policy.recordedFrom outcomes attempt events
        = (outcomes last, events ++ policy.attemptsBetween attempt.toNat last) := by
  -- The induction is on the attempts that are left.
  induction hleft : policy.attempts.toNat - attempt.toNat generalizing attempt events with
  | zero =>
    -- Nothing is left, so this attempt is the last one whether it fails or not.
    have hle : attempt.toNat ≤ policy.attempts.toNat := UInt32.le_iff_toNat_le.mp h
    have hlast : ¬ attempt < policy.attempts := by
      rw [UInt32.lt_iff_toNat_lt]
      omega
    refine ⟨attempt.toNat, .self hle (Or.inr (by omega)), ?_⟩
    rw [recordedFrom_eq, if_neg fun hmore => hlast hmore.2, attemptsBetween_self]
  | succ left ih =>
    -- Some attempts are left, and only the outcome tells whether they are made.
    have hlt : attempt < policy.attempts := by
      rw [UInt32.lt_iff_toNat_lt]
      omega
    cases houtcome : (outcomes attempt.toNat).isOk with
    | true =>
      refine ⟨attempt.toNat, .self (UInt32.le_iff_toNat_le.mp h) (Or.inl houtcome), ?_⟩
      rw [recordedFrom_eq, if_neg (by simp [houtcome]), attemptsBetween_self]
    | false =>
      -- The counter stays within its bits, since it stays within the allowed attempts.
      have hnext : (attempt + 1).toNat = attempt.toNat + 1 := toNat_succ_of_lt hlt
      have hle : attempt + 1 ≤ policy.attempts := by
        rw [UInt32.le_iff_toNat_le, hnext]
        exact UInt32.lt_iff_toNat_lt.mp hlt
      -- The rounds that follow start with all of this round written down.
      obtain ⟨last, hends, hrecorded⟩ := ih hle
        (events ++ [.attempt attempt.toNat, .pause policy.pause]) (by omega)
      rw [hnext] at hends hrecorded
      -- Nothing between the first number and the end has succeeded, this failure included.
      refine ⟨last, hends.of_succ houtcome, ?_⟩
      rw [recordedFrom_eq, if_pos ⟨houtcome, hlt⟩, hrecorded, List.append_assoc,
        policy.attemptsBetween_of_lt hends.first_le]
      rfl

/-- The attempts that a policy allows, of which there is at least one. -/
theorem toNat_attempts : policy.attempts.toNat = max 1 policy.maxAttempts.toNat := by
  have hle : policy.maxAttempts ≤ 1 ↔ policy.maxAttempts.toNat ≤ 1 := UInt32.le_iff_toNat_le
  change (if policy.maxAttempts ≤ 1 then 1 else policy.maxAttempts).toNat = _
  -- A policy that allows fewer than one attempt is taken to allow one.
  by_cases hfew : policy.maxAttempts ≤ 1
  · rw [if_pos hfew, Nat.max_eq_left (hle.mp hfew)]
    rfl
  · rw [if_neg hfew, Nat.max_eq_right (Nat.le_of_not_le (mt hle.mpr hfew))]

/-- **A run is a bounded search for the first success.** It makes the attempts with the numbers from
one up to the end of the search among those that are allowed, each once and in this order, and
nothing else; it pauses as long as the policy says between any two of them; and its outcome is that
of the last one. No number that the counter takes is too large for its 32 bits. -/
theorem exists_endsAt_recorded :
    ∃ last, EndsAt outcomes 1 (max 1 policy.maxAttempts.toNat) last ∧ last < UInt32.size ∧
      policy.recorded outcomes = (outcomes last, policy.attemptsBetween 1 last) := by
  have hone : (1 : UInt32) ≤ policy.attempts := by
    rw [UInt32.le_iff_toNat_le, toNat_attempts]
    exact Nat.le_max_left 1 _
  -- A run is the rounds from the first attempt on, with nothing written yet.
  obtain ⟨last, hends, hrecorded⟩ := policy.exists_endsAt_recordedFrom outcomes hone []
  have hbits : last < UInt32.size :=
    Nat.lt_of_le_of_lt hends.le_limit policy.attempts.toNat_lt_size
  rw [toNat_attempts] at hends
  exact ⟨last, hends, hbits, hrecorded⟩

end RetryPolicy

end DocumentApi
