import DocumentApi.Listing
import DocumentApi.Proofs.Criteria.LastWrite
import Mathlib.Data.List.Nodup

/-!
# Distinct paths

Leaves are named by dotted texts, and nothing in the list of leaves keeps two of them from having
the same one. For a tidy tree whose names hold no dots this cannot happen: the names of a level are
distinct, so the paths of questions are (`Tidy.nodup_paths`), and without dots in the names the
dotted texts are as different as the paths (`nodup_leaves`).

The criteria of a query string are such a tree (`tidy_ofQuery`, `dotless_ofQuery`), and so are those
of a listing, which may have the question for active documents beside them
(`Listing.tidy_effectiveCriteria`, `Listing.dotless_effectiveCriteria`).
-/

namespace DocumentApi

namespace Criteria

/-! ### Questions -/

mutual

/-- What stands at the end of a path is a question. -/
theorem isQuestion_of_mem_questionsOf {value : Criterion} {question : List String × Criterion}
    (h : question ∈ questionsOf value) : IsQuestion question.2 := by
  -- A tree has its questions below it, and anything else is a question itself.
  cases value with
  | nested entries => exact isQuestion_of_mem_questions (by simpa only [questionsOf] using h)
  | _ =>
    obtain rfl := List.mem_singleton.mp h
    intro entries heq
    cases heq

theorem isQuestion_of_mem_questions {criteria : List (String × Criterion)}
    {question : List String × Criterion} (h : question ∈ questions criteria) :
    IsQuestion question.2 := by
  match criteria with
  -- A question of the first entry, or one of the rest.
  | [] => exact absurd h List.not_mem_nil
  | (key, value) :: rest =>
    rw [questions, List.mem_append, List.mem_map] at h
    rcases h with ⟨below, hbelow, rfl⟩ | hrest
    · change IsQuestion below.2
      exact isQuestion_of_mem_questionsOf hbelow
    · exact isQuestion_of_mem_questions hrest

end

/-- The leaves of criteria are questions. -/
theorem isQuestion_of_mem_leaves {criteria : Criteria} {leaf : String × Criterion}
    (h : leaf ∈ criteria.leaves) : IsQuestion leaf.2 := by
  rw [leaves_eq] at h
  obtain ⟨question, hquestion, rfl⟩ := List.mem_map.mp h
  exact isQuestion_of_mem_questions hquestion

/-! ### Paths -/

/-- One level: if the names are distinct, and below each name the paths are, then all are. -/
private theorem nodup_paths_of_level {criteria : Criteria} (hnames : (Fields.keys criteria).Nodup)
    (hbelow : ∀ entry ∈ criteria, ((questionsOf entry.2).map Prod.fst).Nodup) :
    ((questions criteria).map Prod.fst).Nodup := by
  induction criteria with
  | nil => exact List.nodup_nil
  | cons entry rest ih =>
    obtain ⟨key, value⟩ := entry
    rw [Fields.keys_cons, List.nodup_cons] at hnames
    obtain ⟨hvalue, hrest⟩ := List.forall_mem_cons.mp hbelow
    -- Below one name the paths differ in what comes after it.
    have hfirst : (((questionsOf value).map (under key)).map Prod.fst).Nodup := by
      rw [List.map_map]
      have hcons := hvalue.map (List.cons_injective (a := key))
      rwa [List.map_map] at hcons
    rw [questions, List.map_append]
    refine hfirst.append (ih hnames.2 hrest) ?_
    -- The paths below the first name start with it, and those of the rest do not.
    intro path hpath hother
    obtain ⟨question, hquestion, rfl⟩ := List.mem_map.mp hpath
    obtain ⟨below, -, rfl⟩ := List.mem_map.mp hquestion
    obtain ⟨other, hmem, heq⟩ := List.mem_map.mp hother
    obtain ⟨name, names, hcons, hname⟩ := exists_cons_of_mem_questions hmem
    rw [hcons, under_fst, List.cons.injEq] at heq
    exact hnames.1 (heq.1 ▸ hname)

/-- **Distinct paths.** No two questions of a tidy tree have the same path. -/
theorem Tidy.nodup_paths {criteria : Criteria} (h : Tidy criteria) :
    ((questions criteria).map Prod.fst).Nodup := by
  induction h with
  | mk distinct named filled below ih =>
    refine nodup_paths_of_level distinct ?_
    rintro ⟨key, value⟩ hentry
    -- A nested tree is tidy itself; a question has a single path.
    cases value with
    | nested entries => exact ih key entries hentry
    | _ => exact List.nodup_singleton _

/-! ### Dotted texts -/

/-- Whether no name of a tree holds a dot. -/
def Dotless (criteria : Criteria) : Prop :=
  ∀ question ∈ questions criteria, ∀ name ∈ question.1, '.' ∉ name.toList

/-- **Distinct leaves.** In a tidy tree without dots in its names, the leaves have distinct texts. -/
theorem nodup_leaves {criteria : Criteria} (htidy : Tidy criteria) (hdotless : Dotless criteria) :
    (criteria.leaves.map Prod.fst).Nodup := by
  -- The text of a leaf is its path with dots between the names.
  have htexts : criteria.leaves.map Prod.fst
      = ((questions criteria).map Prod.fst).map ".".intercalate := by
    rw [leaves_eq, List.map_map, List.map_map]
    rfl
  rw [htexts]
  refine List.Nodup.map_on ?_ htidy.nodup_paths
  intro path hpath other hother heq
  obtain ⟨question, hquestion, rfl⟩ := List.mem_map.mp hpath
  obtain ⟨question', hquestion', rfl⟩ := List.mem_map.mp hother
  -- No path is empty, as the text of the empty path would be that of a path with an empty name.
  have hne : ∀ question ∈ questions criteria, question.1 ≠ [] := by
    intro question hmem
    obtain ⟨name, names, hcons, -⟩ := exists_cons_of_mem_questions hmem
    rw [hcons]
    exact List.cons_ne_nil _ _
  exact intercalate_dot_injOn (hne _ hquestion) (hne _ hquestion') (hdotless _ hquestion)
    (hdotless _ hquestion') heq

/-- A further name without a dot, with a question at it. -/
theorem Dotless.insert {criteria : Criteria} (h : Dotless criteria)
    (hdistinct : (Fields.keys criteria).Nodup) {key : String} (hkey : '.' ∉ key.toList)
    {value : Criterion} (hvalue : IsQuestion value) :
    Dotless (Fields.insert criteria key value) := by
  intro question hquestion
  have hmem := (questions_insert hdistinct key value).mem_iff.mp hquestion
  rw [questionsOf_of_isQuestion hvalue, List.mem_append] at hmem
  -- The new question, or one that was there.
  rcases hmem with hnew | hold
  · rw [List.map_singleton, List.mem_singleton] at hnew
    subst hnew
    exact List.forall_mem_singleton.mpr hkey
  · exact h question (List.mem_filter.mp hold).1

/-! ### Query strings -/

/-- A question of a query is what one of its tokens asks. -/
theorem exists_token_of_mem_questions {query : String} {question : List String × Criterion}
    (h : question ∈ questions (ofQuery query)) :
    ∃ token ∈ writtenTokens query, token.question = question := by
  unfold ofQuery at h
  -- What is written last at each place is what is left, and it stood among the tokens.
  rw [tokens_eq_writtenTokens] at h
  have hperm := questions_insertTokens fun token hmem =>
    @proper_of_mem_writtenTokens query token hmem
  obtain ⟨token, htoken, heq⟩ := List.mem_map.mp (hperm.mem_iff.mp h)
  exact ⟨token, mem_of_mem_survivors htoken, heq⟩

theorem tidy_ofQuery (query : String) : Tidy (ofQuery query) := by
  unfold ofQuery
  rw [tokens_eq_writtenTokens]
  exact tidy_insertTokens fun token hmem => proper_of_mem_writtenTokens hmem

theorem dotless_ofQuery (query : String) : Dotless (ofQuery query) := by
  intro question hquestion
  obtain ⟨token, htoken, rfl⟩ := exists_token_of_mem_questions hquestion
  exact (proper_of_mem_writtenTokens htoken).dotless

end Criteria

/-! ### Listings -/

namespace Listing

open Criteria

variable {listing : Listing}

/-- What holds of the criteria of a listing, and of them with the question for active documents
added, holds of those that take effect. -/
theorem effectiveCriteria_cases {motive : Criteria → Prop} (hsame : motive listing.criteria)
    (hactive : motive (Fields.insert listing.criteria Schema.activeField (.bool true))) :
    motive listing.effectiveCriteria := by
  unfold effectiveCriteria
  split
  · exact hsame
  · exact hactive

theorem isQuestion_active : IsQuestion (.bool true) :=
  fun _ h => by cases h

theorem tidy_effectiveCriteria (h : Tidy listing.criteria) : Tidy listing.effectiveCriteria := by
  refine effectiveCriteria_cases h (h.insert (by decide) ?_)
  exact fun entries heq => absurd heq (isQuestion_active entries)

theorem dotless_effectiveCriteria (htidy : Tidy listing.criteria) (h : Dotless listing.criteria) :
    Dotless listing.effectiveCriteria :=
  effectiveCriteria_cases h (h.insert htidy.distinct (by decide) isQuestion_active)

end Listing

end DocumentApi
