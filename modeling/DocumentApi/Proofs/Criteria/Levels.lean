import DocumentApi.FilterDocument
import DocumentApi.Matching
import DocumentApi.Proofs.Fields.Pairs

/-!
# Criteria level by level

Criteria can be interpreted in two ways: by asking all their leaves and combining the answers once,
or by going down the tree and combining the answers at every level. The leaves are asked in the same
order both times, so effects and failures are the same; what differs is how often answers are
combined.

* `Criteria.Interpretation.Flattens` — what an interpretation needs: combining has no effect of its
  own, and an answer that was combined of others may stand for them among further answers;
* `Criteria.Interpretation.Flattens.ofLeaves_eq` — then the two ways agree, for any tree;
* `Criteria.interpreted_levelwise` — in particular for matching a document, where answers are
  combined by conjunction, and for filter documents, where they are merged. A name may contain a
  dot, so a path may be repeated: it keeps the place where it comes first and gets the value that
  comes last, and merging group by group does not change either (`Fields.ofPairs_splice`).

What some answers are good for depends on those in front of them and behind them. They are therefore
taken as a function of these (`Criteria.Interpretation.contribution`), and it is this function that
is the same for the entries of a level and for the leaves below it.
-/

namespace DocumentApi

namespace Criteria

namespace Interpretation

variable {m : Type → Type} {α : Type}

/-! ### Contributions -/

/-- What answers come to among others, as a function of those in front of them and behind them. -/
def contribution (combine : List α → α) (answers before after : List α) : α :=
  combine (before ++ answers ++ after)

/-- Seen from the second list, the first one is among the answers in front. -/
theorem contribution_append_right (combine : List α → α) (answers later : List α) :
    contribution combine (answers ++ later)
      = fun before after => contribution combine later (before ++ answers) after := by
  funext before after
  unfold contribution
  rw [← List.append_assoc before]

/-- Seen from the first list, the second one is among the answers behind. -/
theorem contribution_append_left (combine : List α → α) (answers later : List α) :
    contribution combine (answers ++ later)
      = fun before after => contribution combine answers before (later ++ after) := by
  funext before after
  unfold contribution
  rw [← List.append_assoc before, List.append_assoc (before ++ answers)]

section InTurn

variable [Monad m]

/-- The answers of one computation and then those of another one. -/
def inTurn (first second : m (List α)) : m (List α) := do
  let answers ← first
  let later ← second
  pure (answers ++ later)

/-- Whether the answers of two computations contribute the same, with the same effects. -/
def ContributeAlike (combine : List α → α) (first second : m (List α)) : Prop :=
  contribution combine <$> first = contribution combine <$> second

variable [LawfulMonad m] {combine : List α → α}

/-- **In turn.** Computations may be replaced, one by one, by those that contribute the same. -/
theorem contributeAlike_inTurn {first second first' second' : m (List α)}
    (hfirst : ContributeAlike combine first first')
    (hsecond : ContributeAlike combine second second') :
    ContributeAlike combine (inTurn first second) (inTurn first' second') := by
  unfold ContributeAlike at hfirst hsecond ⊢
  -- The second computation is replaced where the first answers are known, and the first one where
  -- it is left open which answers come behind.
  calc contribution combine <$> inTurn first second
      = first >>= fun answers => (contribution combine <$> second) >>= fun contributed =>
          pure fun before after => contributed (before ++ answers) after := by
        simp only [inTurn, map_bind, map_pure, bind_map_left, contribution_append_right]
    _ = first >>= fun answers => (contribution combine <$> second') >>= fun contributed =>
          pure fun before after => contributed (before ++ answers) after := by rw [hsecond]
    _ = first >>= fun answers => second' >>= fun later =>
          pure (contribution combine (answers ++ later)) := by
        simp only [bind_map_left, contribution_append_right]
    _ = (contribution combine <$> first) >>= fun contributed => second' >>= fun later =>
          pure fun before after => contributed before (later ++ after) := by
        simp only [bind_map_left, contribution_append_left]
    _ = (contribution combine <$> first') >>= fun contributed => second' >>= fun later =>
          pure fun before after => contributed before (later ++ after) := by rw [hfirst]
    _ = contribution combine <$> inTurn first' second' := by
        simp only [inTurn, map_bind, map_pure, bind_map_left, contribution_append_left]

end InTurn

/-! ### Levels and leaves -/

variable [Monad m]

/-- Whether the answers of an interpretation are combined, without an effect, by a function for
which it makes no difference whether some of them are combined beforehand. -/
structure Flattens (meaning : Interpretation m α) (combine : List α → α) : Prop where
  all_eq : ∀ answers, meaning.all answers = pure (combine answers)
  splice : ∀ before inner after,
    combine (before ++ combine inner :: after) = combine (before ++ inner ++ after)

/-- The combined answer contributes what the answers do. -/
theorem Flattens.contribution_combine {meaning : Interpretation m α} {combine : List α → α}
    (h : meaning.Flattens combine) (answers : List α) :
    contribution combine [combine answers] = contribution combine answers := by
  funext before after
  unfold contribution
  rw [List.append_assoc, List.singleton_append]
  -- This is what flattening says.
  exact h.splice before answers after

section Levels

variable [LawfulMonad m] {meaning : Interpretation m α} {combine : List α → α}

/-- One leaf has one answer. -/
theorem each_singleton (path : String) (value : Criterion) :
    meaning.each [(path, value)] = ([·]) <$> meaning.meaningAt path value := by
  rw [each, each]
  simp only [pure_bind]
  rw [bind_pure_comp]

theorem each_append (leaves later : List (String × Criterion)) :
    meaning.each (leaves ++ later) = inTurn (meaning.each leaves) (meaning.each later) := by
  unfold inTurn
  induction leaves with
  | nil => simp [each]
  -- Leaf by leaf; the answers to the later ones are put behind.
  | cons leaf rest ih =>
    obtain ⟨path, value⟩ := leaf
    rw [List.cons_append, each, each, ih]
    simp only [bind_assoc, pure_bind, List.cons_append]

/-- The entries of a level are interpreted in turn. -/
theorem below_cons (above : Option String) (key : String) (value : Criterion)
    (rest : List (String × Criterion)) :
    meaning.below above ((key, value) :: rest)
      = inTurn (([·]) <$> meaning.meaningAt (extend above key) value)
          (meaning.below above rest) := by
  rw [below, inTurn]
  simp only [bind_map_left, List.singleton_append]

mutual

/-- **One criterion** contributes what its leaves contribute. -/
theorem Flattens.contributeAlike_meaningAt (h : meaning.Flattens combine) (path : String)
    (value : Criterion) :
    ContributeAlike combine (([·]) <$> meaning.meaningAt path value)
      (meaning.each (leavesAt path value)) := by
  match value with
  | .nested entries =>
    -- The answer to nested entries is combined of the answers to them.
    have hcombined : contribution combine <$> (([·]) <$> meaning.meaningAt path (.nested entries))
        = contribution combine <$> meaning.below (some path) entries := by
      simp only [meaningAt, h.all_eq, bind_pure_comp, Functor.map_map, h.contribution_combine]
    exact hcombined.trans (h.contributeAlike_below (some path) entries)
  | .null | .undefined | .bool _ | .int _ | .double _ | .string _ | .pattern _ =>
    -- A question is its only leaf.
    exact congrArg (contribution combine <$> ·) (each_singleton path _).symm

/-- **The entries of a level** contribute what the leaves below it contribute. -/
theorem Flattens.contributeAlike_below (h : meaning.Flattens combine) (above : Option String)
    (entries : List (String × Criterion)) :
    ContributeAlike combine (meaning.below above entries)
      (meaning.each (leavesBelow above entries)) := by
  match entries with
  -- No entries have no leaves.
  | [] => rfl
  | (key, value) :: rest =>
    -- The first entry and the rest are replaced by their leaves in turn.
    rw [below_cons, leavesBelow, each_append]
    exact contributeAlike_inTurn (h.contributeAlike_meaningAt (extend above key) value)
      (h.contributeAlike_below above rest)

end

/-- **Levels and leaves.** If answers are combined by a function that flattens, then criteria mean
the same, with the same effects, level by level and by their leaves. -/
theorem Flattens.ofLeaves_eq (h : meaning.Flattens combine) (criteria : Criteria) :
    meaning.ofLeaves criteria = meaning.ofTree criteria := by
  have halike : contribution combine <$> meaning.below none criteria
      = contribution combine <$> meaning.each criteria.leaves :=
    h.contributeAlike_below none criteria
  -- The answer to the whole is what comes to without others around.
  have hwhole : ∀ computation : m (List α), (computation >>= meaning.all)
      = (contribution combine <$> computation) >>= fun contributed => pure (contributed [] []) := by
    intro computation
    rw [bind_map_left]
    refine bind_congr fun answers => ?_
    rw [h.all_eq, contribution, List.nil_append, List.append_nil]
  calc meaning.ofLeaves criteria
      = (contribution combine <$> meaning.each criteria.leaves) >>= fun contributed =>
          pure (contributed [] []) := hwhole _
    _ = (contribution combine <$> meaning.below none criteria) >>= fun contributed =>
          pure (contributed [] []) := by rw [halike]
    _ = meaning.ofTree criteria := (hwhole _).symm

end Levels

end Interpretation

/-! ### Matching and filter documents -/

/-- Answers of yes and no are combined by conjunction. -/
theorem flattens_matching (engine : PatternEngine) (document : Document) :
    (Matching.meaning engine document).Flattens (·.all id) where
  all_eq _ := rfl
  splice before inner after := by
    -- A conjunction of conjunctions is a conjunction.
    simp only [List.all_append, List.all_cons, id_eq, Bool.and_assoc]

/-- Filter documents are combined by merging them. -/
theorem flattens_filterMeaning : filterMeaning.Flattens mergeFilters where
  all_eq _ := rfl
  splice before inner after := by
    -- Merging groups by groups gives each path the place of its first and the value of its last
    -- entry.
    unfold mergeFilters
    rw [List.flatten_append, List.flatten_cons, ← List.append_assoc, Fields.ofPairs_splice,
      List.flatten_append, List.flatten_append]

/-- **Level by level or by leaves.** Take any tree of criteria; its names may contain dots, and it
may have levels without entries. Whatever patterns have been compiled before, asking a document for
all leaves at once gives the same answer as asking it level by level, or the same failure, and the
same patterns are compiled. And the filter document of the leaves is the one that is merged level by
level, with the same order of its entries. -/
theorem interpreted_levelwise (criteria : Criteria) :
    (∀ (engine : PatternEngine) (document : Document) (patterns : PatternCache),
      (Matching.evaluate engine criteria document).run patterns
        = ((Matching.meaning engine document).ofTree criteria).run patterns) ∧
    criteria.toFilter = filterMeaning.ofTree criteria := by
  -- Both statements are instances, for the two interpretations.
  constructor
  · intro engine document patterns
    exact congrArg (·.run patterns) ((flattens_matching engine document).ofLeaves_eq criteria)
  · exact flattens_filterMeaning.ofLeaves_eq criteria

/-- The path `a.b` is led to in two ways, and its second question is put in the place of the first
one. The level below `d` adds nothing. -/
example :
    filterMeaning.ofTree
        [("a", .nested [("b", .int 1), ("c", .null)]), ("d", .nested []), ("a.b", .string "x")]
      = [("a.b", .string "x"), ("a.c", .null)] :=
  rfl

end Criteria

end DocumentApi
