import DocumentApi.Proofs.Document.StableSort
import DocumentApi.Proofs.Matching.Selection
import DocumentApi.Store

/-!
# Selecting whole documents

A selection without bounds that returns whole documents returns the documents that satisfy its
criteria, sorted:

* `Matching.filter_eq_satisfying` — matching finds the documents with the answer yes if all patterns
  compile;
* `Store.select_stablySorted` — a selection sorts them stably as long as nothing is sorted by NaN.
-/

namespace DocumentApi

namespace Matching

variable {engine : PatternEngine} {criteria : Criteria} (documents : List Document)

variable (engine criteria) in
/-- The documents that satisfy criteria, each asked by itself, in their order. -/
def satisfying : List Document :=
  documents.filter fun document => isYes (answer engine criteria document)

/-- **Every document has an answer** if all patterns compile, and those with the answer yes are
found. -/
theorem filter_eq_satisfying (h : ∀ text ∈ criteria.patterns, (engine.compile? text).isSome) :
    filter engine criteria documents = .ok (satisfying engine criteria documents) := by
  -- No pattern fails to compile, so that no document is the first to fail.
  have hvalid : firstFailure? engine criteria.patterns = none := firstFailure?_eq_none_iff.mpr h
  have hfailure : failure? (filter engine criteria documents) = none := by
    rw [failure?_filter, hvalid, ite_self]
  -- So matching gives documents, and these are the ones with the answer yes.
  cases hfilter : filter engine criteria documents with
  | error failure =>
    rw [hfilter] at hfailure
    cases hfailure
  | ok matched =>
    rw [(filter_eq_ok.mp hfilter).2]
    rfl

end Matching

namespace Store

/-- **Selecting whole documents.** If all patterns of the criteria compile and no document of the
collection is sorted by NaN, then a selection without bounds returns the documents that satisfy the
criteria, sorted stably by the keys, and in the order of the collection if there are no keys. -/
theorem select_stablySorted (engine : StoreEngine) (store : Store) (name : String)
    {criteria : Criteria} {sort : SortSpec}
    (hpatterns : ∀ text ∈ criteria.patterns, (engine.compile? text).isSome)
    (hnan : ∀ document ∈ (store.collection name).documents, ∀ key ∈ sort.keys,
      document.sortValue key ≠ .number .nan) :
    ∃ found, store.select engine ⟨criteria, .whole, sort, none, none⟩ name = .ok found ∧
      StablySorted (Document.compareBy sort.keys)
        (Matching.satisfying engine criteria (store.collection name).documents) found ∧
      (sort.keys = [] →
        found = Matching.satisfying engine criteria (store.collection name).documents) := by
  -- The documents that match are among all of them, none of which is sorted by NaN.
  have hordered : Document.Ordered sort.keys
      (Matching.satisfying engine criteria (store.collection name).documents) :=
    Document.ordered_of_ne_nan fun document hdocument =>
      hnan document (List.mem_of_mem_filter hdocument)
  -- So sorting them is stable, and the engine has no choice in it.
  have hstable := Document.stablySorted_sortBy hordered
  have hmatching : (store.collection name).matching engine criteria sort = .ok (Document.sortBy
      sort.keys (Matching.satisfying engine criteria (store.collection name).documents)) := by
    unfold Collection.matching
    rw [Matching.filter_eq_satisfying _ hpatterns]
    exact engine.arrange_eq hordered
  refine ⟨_, ?_, hstable, fun hkeys => hstable.eq_of_ties fun a b => ?_⟩
  · unfold Store.select Collection.select
    rw [hmatching]
    -- No document is left out or cut down.
    exact congrArg Except.ok (List.map_id _)
  · -- Without keys all documents tie, so that a stable sort leaves them alone.
    rw [hkeys]
    rfl

/-- Two of three documents are found by a pattern and sorted by a number. -/
theorem select_stablySorted_twoLabels :
    let engine : StoreEngine := .ofPatterns ⟨fun text => .ok fun value => value == text⟩
    let documents : List Document := [
      [("label", .string "a"), ("n", .int32 2)],
      [("label", .string "b")],
      [("label", .string "a"), ("n", .int64 1)]]
    let store : Store := ⟨[("items", ⟨documents, []⟩)]⟩
    ∃ found, store.select engine ⟨[("label", .pattern "a")], .whole, ⟨"n -label"⟩, none, none⟩
        "items" = .ok found ∧
      StablySorted (Document.compareBy (SortSpec.mk "n -label").keys)
        (Matching.satisfying engine [("label", .pattern "a")] documents) found ∧
      ((SortSpec.mk "n -label").keys = [] →
        found = Matching.satisfying engine [("label", .pattern "a")] documents) := by
  intro engine documents store
  exact select_stablySorted engine store "items" (by decide +kernel) (by decide +kernel)

end Store

end DocumentApi
