import DocumentApi.Proofs.Matching.Patterns
import DocumentApi.Proofs.Steps

/-!
# Which documents are selected

Every document has an answer to criteria, which does not depend on the documents before it.

* `Matching.filter_eq_ok` — the documents that satisfy criteria are found if every document has an
  answer, and they are those whose answer is yes; the answer of a document is its own;
* `Matching.failure?_filter` — otherwise the failure is that of the first pattern of the criteria
  that does not compile. Every question is asked of every document, so this does not depend on the
  documents, as long as there are any;
* `Matching.filter_eraseIdx` — a document whose answer is no might as well not be there;
* `Matching.answer_eq_false` — the answer is no if one question of the criteria is answered by no.
-/

namespace DocumentApi

namespace Matching

/-! ### Answers -/

variable {engine : PatternEngine} {criteria : Criteria} {document : Document}
  {documents matched : List Document}

variable (engine criteria document) in
/-- Whether a document by itself satisfies criteria. -/
def answer : Except StoreError Bool :=
  (evaluate engine criteria document).run' []

/-- **The answer of a document** does not depend on what has been compiled before. It fails like the
first pattern of the criteria that does not compile. -/
theorem steady_evaluate :
    Steady engine (evaluate engine criteria document) (answer engine criteria document) ∧
      failure? (answer engine criteria document) = firstFailure? engine criteria.patterns := by
  -- The leaves are questions, so that asking them has one result.
  obtain ⟨result, heach, hfailure⟩ := exists_steady_questions engine document
    fun leaf => @Criteria.isQuestion_of_mem_leaves criteria leaf
  have hevaluate : Steady engine (evaluate engine criteria document)
      (result >>= fun answers => .ok (answers.all id)) :=
    heach.bind fun answers => steady_pure (answers.all id)
  -- The result is the one without compiled patterns in particular.
  have hanswer : answer engine criteria document = result >>= fun answers => .ok (answers.all id) :=
    hevaluate.run'_eq
  rw [hanswer]
  exact ⟨hevaluate, (failure?_bind_ok result _).trans hfailure⟩

/-- The answers to questions, one of which is answered without a pattern. -/
theorem mem_of_each {leaves : List (String × Criterion)} {path : String} {value : Criterion}
    {isMatch : Bool} (hleaf : (path, value) ∈ leaves)
    (hmeaning : (meaning engine document).meaningAt path value = pure isMatch)
    {cache after : PatternCache} {answers : List Bool}
    (h : ((meaning engine document).each leaves).run cache = .ok (answers, after)) :
    isMatch ∈ answers := by
  induction leaves generalizing cache after answers with
  | nil => exact absurd hleaf List.not_mem_nil
  | cons leaf rest ih =>
    obtain ⟨first, question⟩ := leaf
    rw [Criteria.Interpretation.each, StateT.run_bind] at h
    obtain ⟨⟨firstAnswer, between⟩, hfirst, h⟩ := exists_of_bind_eq_ok h
    rw [StateT.run_bind] at h
    obtain ⟨⟨others, last⟩, hothers, h⟩ := exists_of_bind_eq_ok h
    cases h
    -- The question is the first one, or it is asked later.
    rcases List.mem_cons.mp hleaf with heq | hrest
    · obtain ⟨rfl, rfl⟩ := Prod.mk.inj heq
      rw [hmeaning] at hfirst
      cases hfirst
      exact List.mem_cons_self
    · exact List.mem_cons_of_mem _ (ih hrest hothers)

/-- **One question that is answered by no** is enough. -/
theorem answer_eq_false {path : String} {value : Criterion}
    (hleaf : (path, value) ∈ criteria.leaves)
    (hmeaning : (meaning engine document).meaningAt path value = pure false) {isMatch : Bool}
    (h : answer engine criteria document = .ok isMatch) : isMatch = false := by
  -- The answers of all questions are combined, and one of them is no.
  unfold answer evaluate Criteria.Interpretation.ofLeaves at h
  rw [StateT.run'_eq, StateT.run_bind] at h
  obtain ⟨⟨isAnswer, last⟩, hrun, hanswer⟩ := exists_of_map_eq_ok h
  obtain ⟨⟨answers, after⟩, hanswers, hall⟩ := exists_of_bind_eq_ok hrun
  have hmem := mem_of_each hleaf hmeaning hanswers
  cases hall
  rw [← hanswer, List.all_eq_false]
  exact ⟨false, hmem, by decide⟩

/-- A question about a field of the document is a question of the criteria. -/
theorem mem_leaves_of_get? {key : String} {isMatch : Bool}
    (h : Fields.get? criteria key = some (.bool isMatch)) :
    (key, .bool isMatch) ∈ criteria.leaves := by
  unfold Criteria.leaves
  induction criteria with
  | nil => cases h
  | cons entry rest ih =>
    obtain ⟨name, value⟩ := entry
    rw [Fields.get?_cons] at h
    rw [Criteria.leavesBelow, List.mem_append]
    -- The name is found at this entry or behind it.
    split at h
    · next hname =>
      cases h
      subst hname
      refine Or.inl ?_
      simp only [Criteria.leavesAt, Criteria.extend, List.mem_singleton]
    · exact Or.inr (ih h)

/-! ### Selections -/

/-- The documents with the answer yes, if each has one. -/
def selected (answers : Document → Except StoreError Bool) :
    List Document → Except StoreError (List Document)
  | [] => .ok []
  | document :: rest => do
    let isMatch ← answers document
    let others ← selected answers rest
    pure (if isMatch then document :: others else others)

theorem steady_select (documents : List Document) :
    Steady engine (select engine criteria documents)
      (selected (answer engine criteria) documents) := by
  induction documents with
  | nil => exact steady_pure _
  | cons document rest ih =>
    exact steady_evaluate.1.bind fun _ => ih.bind fun _ => steady_pure _

/-- Whether an answer is yes. -/
def isYes : Except StoreError Bool → Bool
  | .ok isMatch => isMatch
  | .error _ => false

theorem selected_eq_ok {answers : Document → Except StoreError Bool} :
    selected answers documents = .ok matched ↔
      (∀ document ∈ documents, ∃ isMatch, answers document = .ok isMatch) ∧
        matched = documents.filter fun document => isYes (answers document) := by
  induction documents generalizing matched with
  | nil => simp [selected, eq_comm]
  | cons document rest ih =>
    rw [selected, List.forall_mem_cons]
    -- A document without an answer makes the whole fail.
    cases hanswer : answers document with
    | error failure =>
      constructor
      · intro h
        cases h
      · rintro ⟨⟨⟨_, h⟩, -⟩, -⟩
        cases h
    | ok isMatch =>
      rw [List.filter_cons, hanswer]
      change ((selected answers rest) >>= fun others =>
        Except.ok (if isMatch then document :: others else others)) = _ ↔ _
      cases hrest : selected answers rest with
      | error failure =>
        constructor
        · intro h
          cases h
        · -- Some later document has no answer.
          rintro ⟨⟨-, hall⟩, -⟩
          have hok := ih.mpr ⟨hall, rfl⟩
          rw [hrest] at hok
          cases hok
      | ok others =>
        obtain ⟨hall, rfl⟩ := ih.mp hrest
        rw [isYes]
        change Except.ok _ = Except.ok _ ↔ _
        rw [Except.ok.injEq]
        exact ⟨fun h => ⟨⟨⟨isMatch, rfl⟩, hall⟩, h.symm⟩, fun h => h.2.symm⟩

/-- **The documents that satisfy criteria.** -/
theorem filter_eq_ok :
    filter engine criteria documents = .ok matched ↔
      (∀ document ∈ documents, ∃ isMatch, answer engine criteria document = .ok isMatch) ∧
        matched = documents.filter fun document => isYes (answer engine criteria document) := by
  unfold filter
  rw [(steady_select documents).run'_eq, selected_eq_ok]

/-- **Matching fails** if there are documents and one of the patterns does not compile, and then the
failure is that of the first of these patterns. -/
theorem failure?_filter (documents : List Document) :
    failure? (filter engine criteria documents)
      = if documents = [] then none else firstFailure? engine criteria.patterns := by
  unfold filter
  rw [(steady_select documents).run'_eq]
  induction documents with
  | nil => rfl
  | cons document rest ih =>
    -- The rest fails in one way, whether or not the first document is kept.
    have hlater : ∀ isMatch : Bool, failure? (selected (answer engine criteria) rest >>=
        fun others => Except.ok (if isMatch then document :: others else others))
          = failure? (selected (answer engine criteria) rest) :=
      fun isMatch => failure?_bind_ok _ _
    have hselected : failure? (selected (answer engine criteria) (document :: rest))
        = (failure? (answer engine criteria document)).or
            (failure? (selected (answer engine criteria) rest)) :=
      failure?_bind _ hlater
    rw [hselected, ih, steady_evaluate.2, if_neg (List.cons_ne_nil document rest)]
    -- All documents fail in the same way.
    split
    · exact Option.or_none
    · exact Option.or_self

/-- **A document that does not satisfy criteria** makes no difference. -/
theorem filter_eraseIdx {place : Nat} (hplace : documents[place]? = some document)
    (hno : ∀ isMatch, answer engine criteria document = .ok isMatch → isMatch = false)
    (h : filter engine criteria documents = .ok matched) :
    filter engine criteria (documents.eraseIdx place) = .ok matched := by
  -- Every document has an answer, and those that are left have the same ones.
  obtain ⟨hall, rfl⟩ := filter_eq_ok.mp h
  refine filter_eq_ok.mpr ⟨fun other hother => hall other (List.mem_of_mem_eraseIdx hother), ?_⟩
  -- The list is cut at the place, where the document is dropped anyway.
  obtain ⟨hlt, rfl⟩ := List.getElem?_eq_some_iff.mp hplace
  obtain ⟨isMatch, hanswer⟩ := hall _ (List.getElem_mem hlt)
  have hdropped : ¬ isYes (answer engine criteria documents[place]) = true := by
    rw [hanswer, isYes, hno isMatch hanswer]
    decide
  have hsplit : documents
      = documents.take place ++ documents[place] :: documents.drop (place + 1) := by
    rw [← List.drop_eq_getElem_cons hlt, List.take_append_drop]
  have hfilter := congrArg
    (List.filter fun document => isYes (answer engine criteria document)) hsplit
  rw [List.filter_append, List.filter_cons, if_neg hdropped] at hfilter
  rw [hfilter, List.eraseIdx_eq_take_drop_succ, List.filter_append]

end Matching

end DocumentApi
