import DocumentApi.Proofs.Criteria.Joining
import DocumentApi.Proofs.Matching.Satisfaction
import DocumentApi.Proofs.Store.Selecting

/-!
# Joined queries select in common

A document satisfies the criteria of two joined queries if it satisfies those of both, provided that
their tokens are apart: a path of the one that is in the way of a path of the other would replace
what is asked there. So the joined query selects what both select, in either order of joining.

* `Matching.satisfies_joined` — one document;
* `Matching.filter_joined` — all documents of a list, in their order;
* `Matching.filter_sublist` — criteria that ask more select no more, which is what becomes of
  criteria that get another one at a free path (`Matching.Satisfies.of_insertAt`).
-/

namespace DocumentApi

namespace Matching

open Criteria

variable {engine : PatternEngine} {first second : String}

/-! ### One document -/

section Document

variable {document : Document}

theorem patterns_joined (h : Apart (writtenTokens first) (writtenTokens second)) {text : String} :
    text ∈ (ofQuery (first ++ "," ++ second)).patterns
      ↔ text ∈ (ofQuery first).patterns ∨ text ∈ (ofQuery second).patterns := by
  unfold patterns patternsOf
  -- The leaves of the joined query are those of both, and so are the patterns among them.
  rw [((leaves_joined h).filterMap _).mem_iff, List.filterMap_append, List.mem_append]

theorem patterns_compile_joined (h : Apart (writtenTokens first) (writtenTokens second))
    (hfirst : ∀ text ∈ (ofQuery first).patterns, (engine.compile? text).isSome)
    (hsecond : ∀ text ∈ (ofQuery second).patterns, (engine.compile? text).isSome) :
    ∀ text ∈ (ofQuery (first ++ "," ++ second)).patterns, (engine.compile? text).isSome := by
  intro text htext
  rcases (patterns_joined h).mp htext with hleft | hright
  · exact hfirst text hleft
  · exact hsecond text hright

/-- **One document** satisfies joined queries if it satisfies both. -/
theorem satisfies_joined (h : Apart (writtenTokens first) (writtenTokens second)) :
    Satisfies engine document (ofQuery (first ++ "," ++ second))
      ↔ Satisfies engine document (ofQuery first) ∧ Satisfies engine document (ofQuery second) := by
  -- Each leaf is asked of the document, and there are no other leaves.
  rw [satisfies_iff, satisfies_iff, satisfies_iff, ← List.forall_mem_append]
  exact forall_congr' fun leaf => imp_congr_left (leaves_joined h).mem_iff

/-- A document that satisfies criteria with another one at a free path satisfies them without it. -/
theorem Satisfies.of_insertAt {criteria : Criteria} (htidy : Tidy criteria) {path : List String}
    (hfree : ∀ question ∈ questions criteria, ¬ Overlaps question.1 path) {value : Criterion}
    (h : Satisfies engine document (criteria.insertAt path value)) :
    Satisfies engine document criteria := by
  rw [satisfies_iff, leaves_eq] at h ⊢
  intro leaf hleaf
  obtain ⟨question, hquestion, rfl⟩ := List.mem_map.mp hleaf
  -- A question that is not in the way of the path is a question of the larger tree as well.
  have hapart : question ∈ apartFrom path criteria := by
    refine List.mem_filter.mpr ⟨hquestion, ?_⟩
    rw [decide_eq_false (hfree question hquestion)]
    rfl
  exact h _ (List.mem_map_of_mem (mem_questions_insertAt htidy path value hapart))

end Document

/-! ### All documents -/

/-- A document of a list is selected if it satisfies the criteria. -/
theorem mem_satisfying_iff {criteria : Criteria}
    (hpatterns : ∀ text ∈ criteria.patterns, (engine.compile? text).isSome)
    {documents : List Document} {document : Document} :
    document ∈ satisfying engine criteria documents
      ↔ document ∈ documents ∧ Satisfies engine document criteria := by
  unfold satisfying
  rw [List.mem_filter, isYes_answer_iff hpatterns]

/-- Criteria that ask more select no more. -/
theorem filter_sublist {criteria stricter : Criteria}
    (hpatterns : ∀ text ∈ criteria.patterns, (engine.compile? text).isSome)
    (hstricter : ∀ text ∈ stricter.patterns, (engine.compile? text).isSome)
    (h : ∀ document, Satisfies engine document stricter → Satisfies engine document criteria)
    (documents : List Document) :
    (satisfying engine stricter documents).Sublist (satisfying engine criteria documents) := by
  unfold satisfying
  -- Every document of the list is kept by the weaker criteria if it is by the stricter ones.
  refine List.monotone_filter_right documents fun document hyes => ?_
  rw [isYes_answer_iff hstricter] at hyes
  exact (isYes_answer_iff hpatterns).mpr (h document hyes)

open Classical in
/-- The joined query selects what both queries select. -/
theorem satisfying_joined (h : Apart (writtenTokens first) (writtenTokens second))
    (hfirst : ∀ text ∈ (ofQuery first).patterns, (engine.compile? text).isSome)
    (hsecond : ∀ text ∈ (ofQuery second).patterns, (engine.compile? text).isSome)
    (documents : List Document) :
    satisfying engine (ofQuery (first ++ "," ++ second)) documents
      = documents.filter fun document =>
          document ∈ satisfying engine (ofQuery first) documents ∧
            document ∈ satisfying engine (ofQuery second) documents := by
  have hjoined := patterns_compile_joined h hfirst hsecond
  refine List.filter_congr fun document hdocument => ?_
  -- Of a document of the list, being selected is satisfying the criteria.
  rw [Bool.eq_iff_iff, isYes_answer_iff hjoined, satisfies_joined h, decide_eq_true_iff,
    mem_satisfying_iff hfirst, mem_satisfying_iff hsecond, and_iff_right hdocument,
    and_iff_right hdocument]

open Classical in
/-- **Joined queries select in common.** If no path of a query is equal to one of another query, or
leads through it or up to it, and all patterns of both compile, then matching the documents of any
list finds with the joined query, in either order of joining, those documents that it finds with
both queries, in the order of the list. So a joined query finds no document that one of its parts
does not find; and neither do the criteria of a query with another criterion at a path that is in no
question's way, as long as their patterns compile. -/
theorem filter_joined (engine : PatternEngine) {first second : String}
    (hapart : ∀ token ∈ writtenTokens first, ∀ other ∈ writtenTokens second,
      ¬ Overlaps token.path other.path)
    (hfirst : ∀ text ∈ (ofQuery first).patterns, (engine.compile? text).isSome)
    (hsecond : ∀ text ∈ (ofQuery second).patterns, (engine.compile? text).isSome)
    (documents : List Document) :
    ∃ left right both,
      filter engine (ofQuery first) documents = .ok left ∧
      filter engine (ofQuery second) documents = .ok right ∧
      both = documents.filter (fun document => document ∈ left ∧ document ∈ right) ∧
      filter engine (ofQuery (first ++ "," ++ second)) documents = .ok both ∧
      filter engine (ofQuery (second ++ "," ++ first)) documents = .ok both ∧
      both.Sublist left ∧ both.Sublist right ∧
      ∀ path value, (∀ question ∈ questions (ofQuery first), ¬ Overlaps question.1 path) →
        (∀ text ∈ ((ofQuery first).insertAt path value).patterns, (engine.compile? text).isSome) →
        ∃ fewer, filter engine ((ofQuery first).insertAt path value) documents = .ok fewer ∧
          fewer.Sublist left := by
  have happly : Apart (writtenTokens first) (writtenTokens second) := hapart
  have hjoined := patterns_compile_joined happly hfirst hsecond
  have hturned := patterns_compile_joined happly.symm hsecond hfirst
  have hboth := satisfying_joined happly hfirst hsecond documents
  -- In the other order the same two memberships are asked for.
  have hsame : satisfying engine (ofQuery (second ++ "," ++ first)) documents
      = satisfying engine (ofQuery (first ++ "," ++ second)) documents := by
    rw [hboth, satisfying_joined happly.symm hsecond hfirst]
    exact List.filter_congr fun document _ => decide_eq_decide.mpr and_comm
  refine ⟨_, _, _, filter_eq_satisfying documents hfirst, filter_eq_satisfying documents hsecond,
    hboth, filter_eq_satisfying documents hjoined, ?_, ?_, ?_, fun path value hfree hpatterns => ?_⟩
  · rw [filter_eq_satisfying documents hturned, hsame]
  · exact filter_sublist hfirst hjoined (fun _ hall => ((satisfies_joined happly).mp hall).1) _
  · exact filter_sublist hsecond hjoined (fun _ hall => ((satisfies_joined happly).mp hall).2) _
  · refine ⟨_, filter_eq_satisfying documents hpatterns, ?_⟩
    exact filter_sublist hfirst hpatterns
      (fun _ hall => hall.of_insertAt (tidy_ofQuery first) hfree) documents

/-- Two queries that ask below one name, and documents of which one is found by both. -/
theorem filter_joined_labels :
    let engine : PatternEngine := ⟨fun text => .ok fun value => value == text⟩
    let documents : List Document := [
      [("label", .document [("text", .string "red"), ("shown", .bool true)])],
      [("label", .document [("text", .string "red")])],
      [("label", .document [("text", .string "blue"), ("shown", .bool true)])]]
    ∃ both, filter engine (ofQuery ("label.text:red" ++ "," ++ "label.shown:true")) documents
        = .ok both ∧
      filter engine (ofQuery ("label.shown:true" ++ "," ++ "label.text:red")) documents
        = .ok both ∧
      both.length = 1 := by
  intro engine documents
  have hapart : ∀ token ∈ writtenTokens "label.text:red",
      ∀ other ∈ writtenTokens "label.shown:true", ¬ Overlaps token.path other.path := by
    decide +kernel
  obtain ⟨left, right, both, -, -, -, hjoined, hturned, -⟩ :=
    filter_joined engine hapart (fun _ _ => rfl) (fun _ _ => rfl) documents
  have hlength : (filter engine (ofQuery ("label.text:red" ++ "," ++ "label.shown:true"))
      documents).toOption.map List.length = some 1 := by
    -- The one document with both is counted by evaluation.
    decide +kernel
  rw [hjoined] at hlength
  exact ⟨both, hjoined, hturned, Option.some.inj hlength⟩

end Matching

end DocumentApi
