import DocumentApi.Matching
import DocumentApi.Proofs.Criteria.Distinct
import DocumentApi.Proofs.Fields.Pairs

/-!
# Asking questions

Compiled patterns are kept while documents are matched, so that what is computed for a document
could depend on those before it. It does not: as long as only patterns are kept that the engine
compiles, a computation has one result, whatever has been compiled before (`Matching.Steady`).

Of all that is done to answer the questions of criteria, only the compilation of a pattern can fail.

* `Matching.exists_steady_questions` — questions have one result, and it is a failure if and only if
  one of their patterns does not compile; then the failure is that of the first of these patterns;
* `Listing.patterns_effectiveCriteria` — the patterns are those of the query string, whether or not
  the question for active documents is added.
-/

namespace DocumentApi

/-! ### The patterns of criteria -/

/-- The pattern that a question asks for, if it asks for one. -/
def Criterion.pattern? : Criterion → Option String
  | .pattern text => some text
  | _ => none

namespace Criteria

/-- The patterns that some leaves ask for, in their order. -/
def patternsOf (leaves : List (String × Criterion)) : List String :=
  leaves.filterMap fun leaf => leaf.2.pattern?

/-- The patterns that criteria ask for, in the order of the leaves. -/
def patterns (criteria : Criteria) : List String :=
  patternsOf criteria.leaves

theorem patternsOf_cons (path : String) (value : Criterion) (rest : List (String × Criterion)) :
    -- A question asks for one pattern or for none.
    patternsOf ((path, value) :: rest) = value.pattern?.toList ++ patternsOf rest := by
  unfold patternsOf
  rw [List.filterMap_cons]
  cases value.pattern? <;> rfl

theorem leavesBelow_append (above : Option String) (entries later : List (String × Criterion)) :
    leavesBelow above (entries ++ later) = leavesBelow above entries ++ leavesBelow above later := by
  induction entries with
  | nil => rfl
  | cons entry rest ih =>
    obtain ⟨key, value⟩ := entry
    rw [List.cons_append, leavesBelow, leavesBelow, ih, List.append_assoc]

end Criteria

/-- The question for active documents asks for no pattern. -/
theorem Listing.patterns_effectiveCriteria (listing : Listing) :
    listing.effectiveCriteria.patterns = listing.criteria.patterns := by
  unfold Listing.effectiveCriteria
  split
  · rfl
  · -- The question is added behind the others, as its name is not there yet.
    next hadded =>
    rw [Bool.or_eq_true, not_or] at hadded
    have habsent : Schema.activeField ∉ Fields.keys listing.criteria := by
      rw [← Fields.get?_eq_none_iff]
      simpa [Fields.contains] using hadded.2
    rw [Fields.insert_of_notMem habsent]
    unfold Criteria.patterns Criteria.leaves Criteria.patternsOf
    rw [Criteria.leavesBelow_append, List.filterMap_append]
    exact List.append_nil _

namespace Matching

variable (engine : PatternEngine)

/-! ### Compiled patterns -/

/-- Whether all patterns that are kept are those that the engine compiles. -/
def Sound (cache : PatternCache) : Prop :=
  ∀ text matcher, Fields.get? cache text = some matcher → engine.compile? text = some matcher

theorem sound_nil : Sound engine [] := fun _ _ h => absurd h (by simp)

/-- Whether a computation has a result whatever has been compiled before. -/
def Steady {α : Type} (computation : MatchM α) (result : Except StoreError α) : Prop :=
  ∀ cache, Sound engine cache → ∃ after, Sound engine after ∧
    computation.run cache = result.map fun value => (value, after)

variable {engine}

theorem Steady.run'_eq {α : Type} {computation : MatchM α} {result : Except StoreError α}
    (h : Steady engine computation result) : computation.run' [] = result := by
  obtain ⟨after, -, hrun⟩ := h [] (sound_nil engine)
  rw [StateT.run'_eq, hrun]
  cases result <;> rfl

theorem steady_pure {α : Type} (value : α) : Steady engine (pure value) (.ok value) :=
  fun cache hcache => ⟨cache, hcache, rfl⟩

/-- One computation after another. -/
theorem Steady.bind {α β : Type} {computation : MatchM α} {result : Except StoreError α}
    {next : α → MatchM β} {nextResult : α → Except StoreError β}
    (h : Steady engine computation result)
    (hnext : ∀ value, Steady engine (next value) (nextResult value)) :
    Steady engine (computation >>= next) (result >>= nextResult) := by
  intro cache hcache
  obtain ⟨between, hbetween, hrun⟩ := h cache hcache
  -- A failure of the first computation is the failure of both.
  cases result with
  | error failure =>
    refine ⟨cache, hcache, ?_⟩
    rw [StateT.run_bind, hrun]
    rfl
  -- What the first one has compiled is kept for the second one.
  | ok value =>
    obtain ⟨after, hafter, hrest⟩ := hnext value between hbetween
    refine ⟨after, hafter, ?_⟩
    rw [StateT.run_bind, hrun]
    exact hrest

/-- What the engine makes of a pattern, with its reason why that fails as a failure of the store. -/
def compiled (engine : PatternEngine) (text : String) : Except StoreError (String → Bool) :=
  (engine.compile text).mapError (invalidPattern text)

theorem compile?_eq_some_iff {text : String} {matcher : String → Bool} :
    engine.compile? text = some matcher ↔ engine.compile text = .ok matcher := by
  -- The reason is forgotten, and nothing else is.
  unfold PatternEngine.compile?
  cases engine.compile text <;> simp [Except.toOption]

/-- **A pattern** is the one that the engine compiles, now or before. -/
theorem steady_predicate (text : String) :
    Steady engine (predicate engine text) (compiled engine text) := by
  intro cache hcache
  unfold predicate compiled StateT.run
  simp only
  cases hkept : Fields.get? cache text with
  | some matcher =>
    -- What is kept is what the engine would make of the text once more.
    refine ⟨cache, hcache, ?_⟩
    rw [compile?_eq_some_iff.mp (hcache text matcher hkept)]
    rfl
  | none =>
    cases hcompiled : engine.compile text with
    | error reason => exact ⟨cache, hcache, rfl⟩
    | ok matcher =>
      refine ⟨Fields.insert cache text matcher, ?_, rfl⟩
      -- The one pattern that is added has just been compiled.
      intro other found hfound
      by_cases hother : text = other
      · subst hother
        rw [Fields.get?_insert_self, Option.some.injEq] at hfound
        rw [← hfound]
        exact compile?_eq_some_iff.mpr hcompiled
      · rw [Fields.get?_insert_of_ne hother] at hfound
        exact hcache other found hfound

/-! ### Failures -/

/-- The failure of a computation, if it fails. -/
def failure? {α : Type} : Except StoreError α → Option StoreError
  | .ok _ => none
  | .error failure => some failure

/-- The failure of two computations, the second of which fails in one way whatever the result of the
first one is. -/
theorem failure?_bind {α β : Type} (first : Except StoreError α) {next : α → Except StoreError β}
    {later : Option StoreError} (h : ∀ value, failure? (next value) = later) :
    failure? (first >>= next) = (failure? first).or later := by
  cases first with
  | ok value => exact h value
  | error failure => rfl

/-- Changing the result of a computation adds no failure. -/
theorem failure?_bind_ok {α β : Type} (first : Except StoreError α) (change : α → β) :
    failure? (first >>= fun value => .ok (change value)) = failure? first := by
  cases first <;> rfl

/-- The failure of the first of some patterns that the engine does not compile. -/
def firstFailure? (engine : PatternEngine) (patterns : List String) : Option StoreError :=
  patterns.findSome? fun text => failure? (compiled engine text)

theorem failure?_compiled_eq_none_iff {text : String} :
    failure? (compiled engine text) = none ↔ (engine.compile? text).isSome := by
  unfold compiled PatternEngine.compile?
  cases engine.compile text <;> simp [failure?, Except.mapError, Except.toOption]

theorem failure?_compiled_eq_some {text : String} {failure : StoreError}
    (h : failure? (compiled engine text) = some failure) :
    ∃ reason, engine.compile text = .error reason ∧ failure = invalidPattern text reason := by
  unfold compiled at h
  -- Only a pattern that does not compile has a reason.
  cases hcompiled : engine.compile text with
  | ok matcher =>
    rw [hcompiled] at h
    cases h
  | error reason =>
    rw [hcompiled] at h
    cases h
    exact ⟨reason, rfl, rfl⟩

theorem firstFailure?_eq_none_iff {patterns : List String} :
    firstFailure? engine patterns = none ↔ ∀ text ∈ patterns, (engine.compile? text).isSome := by
  unfold firstFailure?
  simp only [List.findSome?_eq_none_iff, failure?_compiled_eq_none_iff]

/-- **The first pattern that does not compile** comes after patterns that do, and its failure repeats
the reason that the engine gives. -/
theorem firstFailure?_eq_some {patterns : List String} {failure : StoreError}
    (h : firstFailure? engine patterns = some failure) :
    ∃ before text after reason, patterns = before ++ text :: after ∧
      (∀ other ∈ before, (engine.compile? other).isSome) ∧ engine.compile text = .error reason ∧
      failure = invalidPattern text reason := by
  obtain ⟨before, text, after, hsplit, hfailure, hbefore⟩ := List.findSome?_eq_some_iff.mp h
  obtain ⟨reason, hcompile, hreason⟩ := failure?_compiled_eq_some hfailure
  exact ⟨before, text, after, reason, hsplit,
    fun other hother => failure?_compiled_eq_none_iff.mp (hbefore other hother), hcompile, hreason⟩

variable (engine) (document : Document)

/-- **One question** fails if it asks for a pattern that does not compile. -/
theorem exists_steady_question (path : String) {value : Criterion}
    (h : Criteria.IsQuestion value) :
    ∃ result, Steady engine ((meaning engine document).meaningAt path value) result ∧
      failure? result = firstFailure? engine value.pattern?.toList := by
  -- By the question. Apart from patterns, nothing is compiled for it.
  cases value with
  | pattern text =>
    refine ⟨_, (steady_predicate text).bind fun _ => steady_pure _, ?_⟩
    have honly : firstFailure? engine [text] = failure? (compiled engine text) := by
      rw [firstFailure?, List.findSome?_singleton]
    exact (failure?_bind_ok _ _).trans honly.symm
  | nested entries => exact absurd rfl (h entries)
  | _ => exact ⟨_, steady_pure _, rfl⟩

/-- **Several questions** fail like the first of their patterns that does not compile. All of them
are asked, also behind one that is answered by no. -/
theorem exists_steady_questions {leaves : List (String × Criterion)}
    (h : ∀ leaf ∈ leaves, Criteria.IsQuestion leaf.2) :
    ∃ result, Steady engine ((meaning engine document).each leaves) result ∧
      failure? result = firstFailure? engine (Criteria.patternsOf leaves) := by
  induction leaves with
  | nil => exact ⟨_, steady_pure _, rfl⟩
  | cons leaf rest ih =>
    obtain ⟨path, value⟩ := leaf
    obtain ⟨hvalue, hrest⟩ := List.forall_mem_cons.mp h
    obtain ⟨first, hfirst, hfirstFailure⟩ := exists_steady_question engine document path hvalue
    obtain ⟨others, hothers, hothersFailure⟩ := ih hrest
    -- The first question may fail, and then the others make no difference to the failure.
    refine ⟨_, hfirst.bind fun _ => hothers.bind fun _ => steady_pure _, ?_⟩
    have hlater : ∀ answer, failure? (others >>= fun answers => Except.ok (answer :: answers))
        = failure? others := fun answer => failure?_bind_ok others (List.cons answer)
    rw [failure?_bind first hlater, hfirstFailure, hothersFailure, Criteria.patternsOf_cons,
      firstFailure?, firstFailure?, firstFailure?, List.findSome?_append]

end Matching

end DocumentApi
