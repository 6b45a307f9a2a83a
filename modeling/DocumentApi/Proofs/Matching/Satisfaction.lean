import DocumentApi.Proofs.Document.Reachable
import DocumentApi.Proofs.Matching.Selection

/-!
# What it is to satisfy criteria

Criteria are answered by asking all their leaves, with compiled patterns that are kept from document
to document. What an answer means is said here without leaves, without answers and without what is
kept: `Matching.Satisfies` goes down the tree of criteria and says of each question what it demands
of the values that are reachable by its path.

* `Matching.holdsBelow_iff` — criteria hold in a tree if and only if they hold at each of its
  leaves;
* `Matching.exists_steady_evaluate` — if all patterns compile then a document has an answer,
  whatever has been compiled before, and it is yes exactly if the document satisfies the criteria;
* `Matching.evaluate_iff_satisfies` — together with the order in which paths are followed, and with
  the selection of documents from a list, where what is kept makes no difference.
-/

namespace DocumentApi

namespace Document

/-- Whether a question at a path is about a value: the path reaches it, or reaches an array of which
it is an item. -/
def Considers (document : Document) (path : String) (value : Bson) : Prop :=
  value ∈ Bson.reachable (segments path) (.document document) ∨
    ∃ items, Bson.array items ∈ Bson.reachable (segments path) (.document document) ∧ value ∈ items

variable {document : Document} {path : String}

theorem mem_candidates_iff {value : Bson} :
    value ∈ document.candidates path ↔ document.Considers path value := by
  unfold candidates Considers
  rw [List.mem_flatMap, resolve_eq_reachable]
  constructor
  · rintro ⟨reached, hreached, hvalue⟩
    -- Of an array both the array and its items are looked at, of anything else the value alone.
    cases reached with
    | array items =>
      rcases List.mem_cons.mp hvalue with rfl | hitem
      · exact Or.inl hreached
      · exact Or.inr ⟨items, hreached, hitem⟩
    | _ =>
      obtain rfl := List.mem_singleton.mp hvalue
      exact Or.inl hreached
  · rintro (hreached | ⟨items, hreached, hitem⟩)
    · refine ⟨value, hreached, ?_⟩
      cases value <;> exact List.mem_cons_self
    · exact ⟨.array items, hreached, List.mem_cons_of_mem _ hitem⟩

/-- Some value is considered as soon as one is reached, an empty array included. -/
theorem candidates_eq_nil_iff :
    document.candidates path = [] ↔ Bson.reachable (segments path) (.document document) = [] := by
  unfold candidates
  rw [List.flatMap_eq_nil_iff, resolve_eq_reachable, List.eq_nil_iff_forall_not_mem]
  refine forall_congr' fun value => imp_congr_right fun _ => ?_
  cases value <;> simp

end Document

namespace Matching

/-! ### Demands -/

section Demands

variable (engine : PatternEngine) (document : Document)

/-- Whether a value that a question at a path is about is equal to an expected one, as queries see
values. -/
def HoldsEqual (path : String) (expected : Bson) : Prop :=
  ∃ value, document.Considers path value ∧ value.comparable.same expected.comparable = true

mutual

/-- Whether what is asked at a path holds of a document; nested criteria are asked below it. -/
def Holds (path : String) : Criterion → Prop
  | .null =>
    Bson.reachable (segments path) (.document document) = [] ∨
      ∃ value, document.Considers path value ∧ (value = .null ∨ value = .undefined)
  | .undefined => Bson.reachable (segments path) (.document document) = []
  | .bool value => HoldsEqual document path (.bool value)
  | .int value => HoldsEqual document path (.int64 value)
  | .double value => HoldsEqual document path (.double value)
  | .string text => HoldsEqual document path (.string text)
  | .pattern text =>
    ∃ matcher, engine.compile? text = some matcher ∧
      ∃ subject, document.Considers path (.string subject) ∧ matcher subject = true
  | .nested entries => HoldsBelow (some path) entries

/-- Whether all that is asked below a path holds of a document. -/
def HoldsBelow (above : Option String) : List (String × Criterion) → Prop
  | [] => True
  | (key, value) :: rest => Holds (Criteria.extend above key) value ∧ HoldsBelow above rest

end

/-- Whether a document satisfies criteria: all questions of the tree hold, each at its path. -/
def Satisfies (criteria : Criteria) : Prop :=
  HoldsBelow engine document none criteria

end Demands

variable {engine : PatternEngine} {document : Document}

mutual

theorem holds_iff (path : String) (value : Criterion) :
    Holds engine document path value
      ↔ ∀ leaf ∈ Criteria.leavesAt path value, Holds engine document leaf.1 leaf.2 := by
  -- Nested criteria are asked below their path.
  cases value with
  | nested entries => exact holdsBelow_iff (some path) entries
  | _ =>
    -- A question is the only leaf of itself.
    constructor
    · intro hholds leaf hleaf
      obtain rfl := List.mem_singleton.mp hleaf
      exact hholds
    · intro hall
      exact hall _ List.mem_cons_self

/-- **Trees and leaves.** What is asked below a path holds if it holds at every leaf. -/
theorem holdsBelow_iff (above : Option String) (entries : List (String × Criterion)) :
    HoldsBelow engine document above entries
      ↔ ∀ leaf ∈ Criteria.leavesBelow above entries, Holds engine document leaf.1 leaf.2 := by
  match entries with
  | [] => exact iff_of_true trivial fun _ hleaf => absurd hleaf List.not_mem_nil
  | (key, value) :: rest =>
    rw [HoldsBelow, Criteria.leavesBelow, List.forall_mem_append, holds_iff, holdsBelow_iff]

end

theorem satisfies_iff {criteria : Criteria} :
    Satisfies engine document criteria
      ↔ ∀ leaf ∈ criteria.leaves, Holds engine document leaf.1 leaf.2 :=
  holdsBelow_iff none criteria

/-! ### Answers -/

theorem any_candidates_iff {path : String} {test : Bson → Bool} :
    (document.candidates path).any test = true
      ↔ ∃ value, document.Considers path value ∧ test value = true := by
  simp only [List.any_eq_true, Document.mem_candidates_iff]

section Answers

variable (document)

/-- **One question** whose pattern compiles is answered by yes exactly if it holds. -/
theorem exists_steady_holds (path : String) {value : Criterion} (hvalue : Criteria.IsQuestion value)
    (hpattern : ∀ text ∈ value.pattern?, (engine.compile? text).isSome) :
    ∃ isMatch, Steady engine ((meaning engine document).meaningAt path value) (.ok isMatch) ∧
      (isMatch = true ↔ Holds engine document path value) := by
  -- By the question; that about null alone looks at the paths that reach nothing.
  cases value with
  | null =>
    refine ⟨_, steady_pure _, ?_⟩
    rw [Bool.or_eq_true, List.isEmpty_iff, Document.candidates_eq_nil_iff, any_candidates_iff,
      Holds]
    -- A value without content is null or undefined.
    refine or_congr_right (exists_congr fun value => and_congr_right fun _ => ?_)
    cases value <;> simp [isNullish]
  | undefined =>
    refine ⟨_, steady_pure _, ?_⟩
    rw [List.isEmpty_iff, Document.resolve_eq_reachable, Holds]
  | pattern text =>
    obtain ⟨matcher, hmatcher⟩ := Option.isSome_iff_exists.mp (hpattern text rfl)
    have hcompiled : compiled engine text = .ok matcher := by
      unfold compiled
      rw [compile?_eq_some_iff.mp hmatcher]
      rfl
    have hsteady : Steady engine (predicate engine text) (.ok matcher) :=
      hcompiled ▸ steady_predicate text
    refine ⟨_, hsteady.bind fun matcher =>
      steady_pure ((document.candidates path).any (isTextThat matcher)), ?_⟩
    rw [any_candidates_iff, Holds]
    constructor
    · -- Only a text can be matched.
      rintro ⟨value, hconsiders, hmatch⟩
      cases value with
      | string subject => exact ⟨matcher, hmatcher, subject, hconsiders, hmatch⟩
      | _ => cases hmatch
    · rintro ⟨other, hother, subject, hconsiders, hmatch⟩
      -- A pattern compiles to one predicate.
      obtain rfl : matcher = other := Option.some.inj (hmatcher.symm.trans hother)
      exact ⟨.string subject, hconsiders, hmatch⟩
  | nested entries => exact absurd rfl (hvalue entries)
  | _ => exact ⟨_, steady_pure _, any_candidates_iff⟩

/-- Several questions are all answered by yes exactly if all of them hold. -/
theorem exists_steady_each {leaves : List (String × Criterion)}
    (hleaves : ∀ leaf ∈ leaves, Criteria.IsQuestion leaf.2)
    (hpatterns : ∀ text ∈ Criteria.patternsOf leaves, (engine.compile? text).isSome) :
    ∃ answers, Steady engine ((meaning engine document).each leaves) (.ok answers) ∧
      (answers.all id = true ↔ ∀ leaf ∈ leaves, Holds engine document leaf.1 leaf.2) := by
  induction leaves with
  | nil => exact ⟨[], steady_pure [], by simp⟩
  | cons leaf rest ih =>
    obtain ⟨path, value⟩ := leaf
    obtain ⟨hvalue, hrest⟩ := List.forall_mem_cons.mp hleaves
    rw [Criteria.patternsOf_cons] at hpatterns
    -- The patterns of all questions are those of the first one and those of the others.
    obtain ⟨hpattern, hothers⟩ := List.forall_mem_append.mp hpatterns
    obtain ⟨isMatch, hfirst, hholds⟩ := exists_steady_holds document path hvalue
      fun text htext => hpattern text (Option.mem_toList.mpr htext)
    obtain ⟨answers, heach, hall⟩ := ih hrest hothers
    refine ⟨isMatch :: answers, hfirst.bind fun _ => heach.bind fun _ => steady_pure _, ?_⟩
    rw [List.all_cons, Bool.and_eq_true, id_eq, hholds, hall, List.forall_mem_cons]

/-- **The answer to criteria** whose patterns compile: it does not depend on what has been compiled
before, and is yes exactly if the document satisfies them. -/
theorem exists_steady_evaluate {criteria : Criteria}
    (hpatterns : ∀ text ∈ criteria.patterns, (engine.compile? text).isSome) :
    ∃ isMatch, Steady engine (evaluate engine criteria document) (.ok isMatch) ∧
      (isMatch = true ↔ Satisfies engine document criteria) := by
  -- The answers to the leaves are combined by conjunction, as the demands are.
  obtain ⟨answers, heach, hall⟩ := exists_steady_each document
    (fun leaf hleaf => Criteria.isQuestion_of_mem_leaves hleaf) hpatterns
  refine ⟨answers.all id, heach.bind fun _ => steady_pure _, ?_⟩
  rw [hall, satisfies_iff]

end Answers

/-- The answer with nothing compiled before is one of those. -/
theorem isYes_answer_iff {criteria : Criteria}
    (hpatterns : ∀ text ∈ criteria.patterns, (engine.compile? text).isSome) :
    isYes (answer engine criteria document) = true ↔ Satisfies engine document criteria := by
  -- Whatever was compiled before includes nothing at all.
  obtain ⟨isMatch, hsteady, hiff⟩ := exists_steady_evaluate document hpatterns
  have hanswer : answer engine criteria document = .ok isMatch := hsteady.run'_eq
  rw [hanswer, isYes, hiff]

/-- **Matching means satisfying.** A path is resolved to the values that are reachable by it, depth
first. Criteria whose patterns compile have an answer for every document, whatever patterns have
been compiled before, and the answer is yes if and only if the document satisfies them. And if one
document is asked after another, with compiled patterns kept on the way, then the documents that are
found are those that are found by asking each of them with nothing compiled before; where one of the
documents has no answer, the failure is the same. -/
theorem evaluate_iff_satisfies (engine : PatternEngine) :
    (∀ (document : Document) (path : String),
      document.resolve path = Bson.reachable (segments path) (.document document)) ∧
    (∀ criteria : Criteria, (∀ text ∈ criteria.patterns, (engine.compile? text).isSome) →
      ∀ document : Document, ∃ isMatch,
        Steady engine (evaluate engine criteria document) (.ok isMatch) ∧
        (isMatch = true ↔ Satisfies engine document criteria)) ∧
    (∀ (criteria : Criteria) (documents : List Document),
      filter engine criteria documents
        = selected (fun document => (evaluate engine criteria document).run' []) documents) := by
  refine ⟨Document.resolve_eq_reachable, fun criteria hpatterns document => ?_,
    fun criteria documents => ?_⟩
  · -- No hypothesis about patterns is left but that they compile.
    exact exists_steady_evaluate document hpatterns
  · exact (steady_select documents).run'_eq

/-- A document with a list of parts and a list of tags. -/
def toolbox : Document :=
  [("parts", .array [.document [("name", .string "Bolt")], .document [("name", .string "M8")]]),
    ("tags", .array [.string "red", .null])]

/-- A pattern for the names of the parts, a text for the first tag, null for some tag, and a third
part and a code that are to be absent. -/
def toolboxCriteria : Criteria :=
  [("parts", .nested [("name", .pattern "M8"), ("2", .undefined)]), ("tags.0", .string "red"),
    ("tags", .null), ("code", .undefined)]

/-- The toolbox satisfies its criteria, because asking it gives the answer yes. The pattern is one
without any special letter. -/
theorem evaluate_iff_satisfies_toolbox :
    let engine : PatternEngine := ⟨fun text => .ok fun subject => subject == text⟩
    (∀ text ∈ toolboxCriteria.patterns, (engine.compile? text).isSome) ∧
      Satisfies engine toolbox toolboxCriteria := by
  intro engine
  have hpatterns : ∀ text ∈ toolboxCriteria.patterns, (engine.compile? text).isSome :=
    fun _ _ => rfl
  obtain ⟨isMatch, hsteady, hiff⟩ :=
    (evaluate_iff_satisfies engine).2.1 toolboxCriteria hpatterns toolbox
  have hanswer : answer engine toolboxCriteria toolbox = .ok isMatch := hsteady.run'_eq
  have hyes : isYes (answer engine toolboxCriteria toolbox) = true := by decide +kernel
  rw [hanswer] at hyes
  exact ⟨hpatterns, hiff.mp hyes⟩

end Matching

end DocumentApi
