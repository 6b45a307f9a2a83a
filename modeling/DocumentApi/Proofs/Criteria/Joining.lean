import DocumentApi.Proofs.Criteria.Distinct
import DocumentApi.Proofs.Text.Pieces

/-!
# Joining queries

Two query strings with a comma between them make one query string. Its tokens are those of the one
and those of the other, but they are inserted into one tree, where names that both use lead to the
same levels. As long as no path of the one is in the way of a path of the other, nothing of this is
seen in the questions:

* `tokens_joined` — the tokens of joined queries;
* `survivors_append` — tokens that are not in the way of later ones survive them;
* `leaves_joined` — so the leaves of joined queries are those of both;
* `mem_questions_insertAt` — a criterion takes no questions of a tree away but those that are in
  the way of its path.

The last does not follow from what an insertion does to all questions (`questions_insertAt`), which
is about questions that are inserted, while a criterion may be a tree of its own.
-/

namespace DocumentApi

namespace Criteria

/-! ### Tokens -/

theorem tokens_joined (first second : String) :
    tokens (first ++ "," ++ second) = tokens first ++ tokens second := by
  have htext : (first ++ "," ++ second).toList = first.toList ++ ',' :: second.toList := by
    rw [String.toList_append, String.toList_append, List.append_assoc]
    rfl
  unfold tokens
  rw [htext, Text.pieces_append_separator, List.filterMap_append]

/-- Whether no token of the one list is in the way of a token of the other. -/
def Apart (tokens others : List Token) : Prop :=
  ∀ token ∈ tokens, ∀ other ∈ others, ¬ Overlaps token.path other.path

theorem Apart.symm {tokens others : List Token} (h : Apart tokens others) : Apart others tokens :=
  fun other hother token htoken hover => h token htoken other hother hover.symm

/-- **Tokens that are apart from later ones** survive among them if they survive by themselves. -/
theorem survivors_append {tokens later : List Token} (h : Apart tokens later) :
    survivors (tokens ++ later) = survivors tokens ++ survivors later := by
  induction tokens with
  -- Each token of the first list survives in the joined list exactly if it does in its own.
  | nil => rfl
  | cons token rest ih =>
    obtain ⟨htoken, hrest⟩ := List.forall_mem_cons.mp h
    -- What comes in the way of the first token stands in the first list.
    have hiff : (∃ other ∈ rest ++ later, Overlaps token.path other.path)
        ↔ ∃ other ∈ rest, Overlaps token.path other.path := by
      constructor
      · rintro ⟨other, hother, hover⟩
        rcases List.mem_append.mp hother with hbefore | hlater
        · exact ⟨other, hbefore, hover⟩
        · exact absurd hover (htoken other hlater)
      · rintro ⟨other, hother, hover⟩
        exact ⟨other, List.mem_append_left _ hother, hover⟩
    rw [List.cons_append, survivors, survivors, ih hrest]
    by_cases hover : ∃ other ∈ rest, Overlaps token.path other.path
    · rw [if_pos (hiff.mpr hover), if_pos hover]
    · rw [if_neg (fun hmem => hover (hiff.mp hmem)), if_neg hover, List.cons_append]

/-! ### Leaves -/

theorem questions_ofQuery (query : String) :
    -- The tokens of the query may be read as they are written, which are known to be proper.
    (questions (ofQuery query)).Perm ((survivors (tokens query)).map Token.question) := by
  rw [tokens_eq_writtenTokens, ofQuery, tokens_eq_writtenTokens]
  exact questions_insertTokens fun token hmem => proper_of_mem_writtenTokens hmem

/-- The leaves of a query are the tokens that survive, under their dotted paths. -/
theorem leaves_ofQuery (query : String) : (ofQuery query).leaves.Perm
    ((survivors (writtenTokens query)).map fun token => dotted token.question) := by
  rw [leaves_eq, ← tokens_eq_writtenTokens, ← Function.comp_def dotted, ← List.map_map]
  exact (questions_ofQuery query).map dotted

/-- **The leaves of joined queries** are those of both, if their tokens are apart. -/
theorem leaves_joined {first second : String}
    (h : Apart (writtenTokens first) (writtenTokens second)) :
    (ofQuery (first ++ "," ++ second)).leaves.Perm
      ((ofQuery first).leaves ++ (ofQuery second).leaves) := by
  -- The three trees are compared by their questions, of which the leaves are the dotted texts.
  rw [← tokens_eq_writtenTokens, ← tokens_eq_writtenTokens] at h
  have hjoined := questions_ofQuery (first ++ "," ++ second)
  rw [tokens_joined, survivors_append h, List.map_append] at hjoined
  have hboth := hjoined.trans ((questions_ofQuery first).append (questions_ofQuery second)).symm
  rw [leaves_eq, leaves_eq, leaves_eq, ← List.map_append]
  exact hboth.map dotted

/-! ### A criterion at a path -/

/-- **A criterion that is inserted** leaves the questions that are not in the way of its path. -/
theorem mem_questions_insertAt {criteria : Criteria} (h : Tidy criteria) (path : List String)
    (value : Criterion) {question : List String × Criterion}
    (hquestion : question ∈ apartFrom path criteria) :
    question ∈ questions (criteria.insertAt path value) := by
  -- The path leads from level to level, so the tree is any level.
  induction path generalizing criteria question with
  | nil => exact (List.mem_filter.mp hquestion).1
  | cons key rest ih =>
    -- Giving the first name a criterion keeps the questions that start with other names.
    have hkept : ∀ found : Criterion, question ∈ (questions criteria).filter
          (fun question => !startsWith key question) →
        question ∈ questions (Fields.insert criteria key found) := by
      intro found hbeside
      rw [(questions_insert h.distinct key found).mem_iff]
      exact List.mem_append_right _ hbeside
    rw [(apartFrom_cons_perm h.distinct key rest).mem_iff, List.mem_append] at hquestion
    -- By whether the path ends at this name; a question is below the name or beside it either way.
    cases rest with
    | nil =>
      rcases hquestion with hbelow | hbeside
      · -- Whatever is below the name is in the way.
        obtain ⟨inner, hinner, -⟩ := List.mem_map.mp hbelow
        have hnot := (List.mem_filter.mp hinner).2
        rw [decide_eq_true (overlaps_nil_left inner.1).symm] at hnot
        cases hnot
      · exact hkept value hbeside
    | cons next rest =>
      rcases hquestion with hbelow | hbeside
      · -- Below the name the rest of the path is inserted, and the question is apart from it.
        obtain ⟨inner, hinner, rfl⟩ := List.mem_map.mp hbelow
        have hlevel : inner ∈ questions ((criteria.below key).insertAt (next :: rest) value) :=
          ih (h.tidy_below key) hinner
        rw [Criteria.insertAt, (questions_insert h.distinct key _).mem_iff, questionsOf]
        exact List.mem_append_left _ (List.mem_map_of_mem hlevel)
      · exact hkept _ hbeside

end Criteria

end DocumentApi
