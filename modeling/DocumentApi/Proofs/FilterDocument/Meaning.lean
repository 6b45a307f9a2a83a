import DocumentApi.FilterDocument
import DocumentApi.Matching
import DocumentApi.Proofs.Criteria.Distinct
import DocumentApi.Proofs.Fields.Pairs

/-!
# What a filter document means

A filter document is read back here without the criteria that it was made of: the form of the value
under a path says which test is meant (`FilterTest.ofBson`), and a document satisfies the filter if
it passes all tests (`Matching.evaluateFilter`).

* `Criteria.toFilter_forall₂` — the filter document of criteria has one entry for each leaf, in the
  order of the leaves, and reading the entry gives the question of the leaf. What has to be shown is
  that no entry replaces another one: entries are inserted under dotted texts, so the leaves need
  distinct ones (`Criteria.nodup_leaves`);
* `Matching.evaluateFilter_toFilter` — for the criteria of a listing, a document satisfies the
  filter document if and only if it satisfies the criteria, and where the answer is a failure it is
  the same failure.
-/

namespace DocumentApi

/-! ### Reading entries -/

/-- The test that an entry of a filter document stands for. -/
inductive FilterTest where
  /-- There is no value, or it is null. -/
  | nullOrAbsent
  /-- There is no value. -/
  | absent
  /-- Some value is a text in which the pattern matches. -/
  | pattern (text : String)
  /-- Some value is equal to this one. -/
  | equals (value : Bson)

namespace FilterTest

/-- Reads the value of an entry by its form. -/
def ofBson : Bson → FilterTest
  | .null => .nullOrAbsent
  | .document [("$exists", .bool false)] => .absent
  | .document [("$regex", .string text), ("$options", .string "i")] => .pattern text
  | value => .equals value

variable {m : Type → Type} {α : Type}

/-- What a test means at a path, when it is said what the questions of criteria mean. -/
def ask (meaning : Criteria.Interpretation m α) (path : String) : FilterTest → m α
  | .nullOrAbsent => meaning.null path
  | .absent => meaning.undefined path
  | .pattern text => meaning.pattern path text
  | .equals value => meaning.equals path value

end FilterTest

/-- Whether a document satisfies a filter document: the test of every entry is carried out at its
path, in the order of the entries, and all of them have to be passed. -/
def Matching.evaluateFilter (engine : PatternEngine) (filter document : Document) :
    MatchM Bool := do
  let answers ← filter.mapM fun entry =>
    (FilterTest.ofBson entry.2).ask (meaning engine document) entry.1
  pure (answers.all id)

/-! ### Entries and leaves -/

namespace Criteria

section Entries

variable {m : Type → Type} [Monad m] {α : Type} (meaning : Interpretation m α)

/-- Whether an entry of a filter document stands for a leaf: it has the path of the leaf, and
reading it gives what the question of the leaf means. -/
def StandsFor (leaf : String × Criterion) (entry : String × Bson) : Prop :=
  entry.1 = leaf.1 ∧
    (FilterTest.ofBson entry.2).ask meaning entry.1 = meaning.meaningAt leaf.1 leaf.2

/-- **One question.** Its filter document has one entry, whose form cannot be mistaken. -/
theorem exists_entry (path : String) {value : Criterion} (h : IsQuestion value) :
    ∃ entry, filterMeaning.meaningAt path value = [entry] ∧
      StandsFor meaning (path, value) entry := by
  cases value with
  | nested entries => exact absurd rfl (h entries)
  -- Every question has one entry, which is read by its form again.
  | _ => exact ⟨_, rfl, rfl, rfl⟩

/-- Several questions have as many entries. -/
theorem standsFor_each {leaves : List (String × Criterion)}
    (h : ∀ leaf ∈ leaves, IsQuestion leaf.2) :
    List.Forall₂ (StandsFor meaning) leaves (filterMeaning.each leaves).flatten := by
  induction leaves with
  | nil => exact List.Forall₂.nil
  | cons leaf rest ih =>
    obtain ⟨path, value⟩ := leaf
    obtain ⟨hvalue, hrest⟩ := List.forall_mem_cons.mp h
    obtain ⟨entry, hentry, hstands⟩ := exists_entry meaning path hvalue
    have heach : filterMeaning.each ((path, value) :: rest)
        = filterMeaning.meaningAt path value :: filterMeaning.each rest := rfl
    -- The entry of the first leaf is put in front of those of the rest.
    rw [heach, hentry, List.flatten_cons, List.singleton_append]
    exact List.Forall₂.cons hstands (ih hrest)

theorem map_fst_eq_of_standsFor {leaves : List (String × Criterion)} {entries : Document}
    (h : List.Forall₂ (StandsFor meaning) leaves entries) :
    Fields.keys entries = leaves.map Prod.fst := by
  induction h with
  | nil => rfl
  | cons hstands _ ih => rw [Fields.keys_cons, List.map_cons, hstands.1, ih]

/-- Asking the entries one after another is asking the leaves. -/
theorem mapM_ask_of_standsFor [LawfulMonad m] {leaves : List (String × Criterion)}
    {entries : Document} (h : List.Forall₂ (StandsFor meaning) leaves entries) :
    (entries.mapM fun entry => (FilterTest.ofBson entry.2).ask meaning entry.1)
      = meaning.each leaves := by
  induction h with
  | nil => rw [List.mapM_nil, Interpretation.each]
  | @cons leaf entry leaves entries hstands _ ih =>
    obtain ⟨path, value⟩ := leaf
    -- The first entry is asked as its leaf is, and then the rest.
    rw [List.mapM_cons, Interpretation.each, hstands.2, ih]

/-- No entry is inserted under a path that is there already. -/
theorem toFilter_eq_flatten {criteria : Criteria} (h : (criteria.leaves.map Prod.fst).Nodup) :
    criteria.toFilter = (filterMeaning.each criteria.leaves).flatten := by
  have hstands := standsFor_each filterMeaning fun leaf => @isQuestion_of_mem_leaves criteria leaf
  change Fields.ofPairs (filterMeaning.each criteria.leaves).flatten = _
  -- The paths of the leaves are distinct, so that no pair gives place to another one.
  refine Fields.ofPairs_of_nodup ?_
  rw [map_fst_eq_of_standsFor filterMeaning hstands]
  exact h

/-- **Entries and leaves.** If the leaves have distinct paths, then the filter document has an entry
for each of them, in their order. -/
theorem toFilter_forall₂ {criteria : Criteria} (h : (criteria.leaves.map Prod.fst).Nodup) :
    List.Forall₂ (StandsFor meaning) criteria.leaves criteria.toFilter := by
  rw [toFilter_eq_flatten h]
  exact standsFor_each meaning fun leaf => @isQuestion_of_mem_leaves criteria leaf

end Entries

end Criteria

/-! ### Verdicts -/

namespace Matching

/-- **A filter document means what its criteria mean.** Take the criteria of any query string,
possibly with the question for active documents that a listing adds. Their filter document has
exactly the paths of the leaves, each once and in their order; and whatever patterns have been
compiled before, a document satisfies it as it satisfies the criteria, or fails in the same way. -/
theorem evaluateFilter_toFilter (engine : PatternEngine) (listing : Listing) (query : String) :
    let criteria := { listing with criteria := Criteria.ofQuery query }.effectiveCriteria
    Fields.keys criteria.toFilter = criteria.leaves.map Prod.fst ∧
      (Fields.keys criteria.toFilter).Nodup ∧
      ∀ document,
        evaluateFilter engine criteria.toFilter document = evaluate engine criteria document := by
  intro criteria
  -- What a query makes and what a listing adds to it leave no path twice.
  have htidy : Criteria.Tidy criteria :=
    Listing.tidy_effectiveCriteria (Criteria.tidy_ofQuery query)
  have hdotless : Criteria.Dotless criteria :=
    Listing.dotless_effectiveCriteria (Criteria.tidy_ofQuery query) (Criteria.dotless_ofQuery query)
  have hdistinct := Criteria.nodup_leaves htidy hdotless
  have hstands := fun document =>
    Criteria.toFilter_forall₂ (meaning engine document) hdistinct
  have hkeys := Criteria.map_fst_eq_of_standsFor _ (hstands [])
  refine ⟨hkeys, hkeys ▸ hdistinct, ?_⟩
  intro document
  -- Both sides ask one question after another and combine the answers once.
  unfold evaluateFilter evaluate Criteria.Interpretation.ofLeaves
  rw [Criteria.mapM_ask_of_standsFor _ (hstands document)]
  rfl

end Matching

end DocumentApi
