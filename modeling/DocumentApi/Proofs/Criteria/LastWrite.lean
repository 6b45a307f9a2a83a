import DocumentApi.Criteria.Query
import DocumentApi.Proofs.Criteria.Questions
import DocumentApi.Proofs.Fields.Pairs

/-!
# The last write to a path wins

A query inserts its tokens one after another into one tree, where they get into each other's way: a
question gives place to the questions below it and the other way round, at every depth. What is
left at the end is said here without a tree.

* `questions_insertTokens` — the questions of the tree are the **survivors** among the tokens, those
  that no later token overlaps;
* `keys_insertTokens` — the names of the first level stand in the order in which they appear first,
  whether or not the token that brought them in survives;
* `ofQuery_lastWrite` — both for query strings, together with the tidiness of the tree.

The tokens themselves are said a second time, by the list operations on the text of the query
(`writtenTokens`), so that the statement about query strings does not rest on the reader that it is
about.
-/

namespace DocumentApi

namespace Criteria

/-! ### The tokens of a query -/

/-- The names before the first colon of a piece of a query; empty ones do not count. -/
def writtenPath (piece : List Char) : List String :=
  (((piece.takeWhile (· != ':')).splitOn '.').filter (· ≠ [])).map String.ofList

/-- What the text behind the first colon of a piece asks for; nothing asks for the empty text. -/
def writtenValue (piece : List Char) : Criterion :=
  match (piece.dropWhile (· != ':')).tail with
  | [] => .string ""
  | text => Criterion.coerce (String.ofList text)

/-- The tokens that a query writes: its pieces between commas that hold a colon with at least one
name before it. -/
def writtenTokens (query : String) : List Token :=
  ((query.toList.splitOn ',').filter fun piece => ':' ∈ piece ∧ writtenPath piece ≠ []).map
    fun piece => ⟨writtenPath piece, writtenValue piece⟩

private theorem pathOf_eq_writtenPath (piece : List Char) :
    Token.pathOf (piece.takeWhile (· != ':')) = writtenPath piece := by
  unfold Token.pathOf writtenPath
  rw [Text.pieces_eq_splitOn]
  congr 1
  -- The two ways of saying that a name is not empty agree.
  refine List.filter_congr (fun name _ => ?_)
  cases name <;> rfl

private theorem valueOf_eq_writtenValue (piece : List Char) :
    Token.valueOf (piece.dropWhile (· != ':')).tail = writtenValue piece := by
  unfold Token.valueOf writtenValue
  cases (piece.dropWhile (· != ':')).tail with
  | nil => exact if_pos rfl
  | cons c rest => exact if_neg Bool.false_ne_true

/-- One piece is read as a token exactly if it writes one. -/
theorem ofChars?_eq (piece : List Char) :
    Token.ofChars? piece =
      if ':' ∈ piece ∧ writtenPath piece ≠ [] then
        some ⟨writtenPath piece, writtenValue piece⟩
      else none := by
  unfold Token.ofChars?
  rw [Text.cut?_eq]
  -- A token needs a colon, and a name before it.
  by_cases hcolon : ':' ∈ piece
  · rw [if_pos hcolon, Option.bind_some]
    simp only [pathOf_eq_writtenPath, valueOf_eq_writtenValue]
    by_cases hpath : writtenPath piece = []
    · simp [hpath]
    · simp [hcolon, hpath]
  · simp [hcolon]

/-- Reading a query gives the tokens that it writes. -/
theorem tokens_eq_writtenTokens (query : String) : tokens query = writtenTokens query := by
  unfold tokens writtenTokens
  rw [Text.pieces_eq_splitOn]
  induction query.toList.splitOn ',' with
  | nil => rfl
  -- Piece by piece, each of them read or left out by both.
  | cons piece rest ih =>
    rw [List.filterMap_cons, ofChars?_eq, List.filter_cons]
    by_cases h : ':' ∈ piece ∧ writtenPath piece ≠ []
    · simp only [if_pos h, ih, decide_eq_true h, if_true, List.map_cons]
    · simp only [if_neg h, ih, decide_eq_false h, Bool.false_eq_true, if_false]

/-! ### Tokens are questions at paths of names -/

/-- What a token asks, with its path. -/
def Token.question (token : Token) : List String × Criterion :=
  (token.path, token.value)

/-- A token that asks something of a value, at the end of a path of names. -/
structure Token.Proper (token : Token) : Prop where
  path_ne_nil : token.path ≠ []
  named : "" ∉ token.path
  dotless : ∀ name ∈ token.path, '.' ∉ name.toList
  asks : IsQuestion token.value

theorem isQuestion_ofKeyword? {text : String} {keyword : Criterion}
    (h : Criterion.ofKeyword? text = some keyword) : IsQuestion keyword := by
  rintro entries rfl
  -- All keywords are questions.
  simp only [Criterion.ofKeyword?] at h
  split_ifs at h <;> simp at h

theorem isQuestion_ofNumeral? {text : String} {number : Criterion}
    (h : Criterion.ofNumeral? text = some number) : IsQuestion number := by
  -- A number asks for an integer, a decimal number or its text.
  rintro entries rfl
  obtain ⟨x, -, hx⟩ := Option.bind_eq_some_iff.mp h
  split at hx
  · unfold Criterion.ofNumber at hx
    split at hx
    · split at hx <;> simp at hx
    · simp at hx
  · simp at hx

/-- Coercion never gives a tree. -/
theorem isQuestion_classify (text : String) : IsQuestion (Criterion.classify text) := by
  intro entries h
  unfold Criterion.classify at h
  -- By the form that takes the text; a pattern is what remains.
  cases hkeyword : Criterion.ofKeyword? text with
  | some keyword =>
    simp only [hkeyword] at h
    exact isQuestion_ofKeyword? hkeyword entries h
  | none =>
    simp only [hkeyword] at h
    split at h
    · simp at h
    · cases hnumeral : Criterion.ofNumeral? text with
      | none => simp [hnumeral] at h
      | some number =>
        rw [hnumeral, Option.getD_some] at h
        exact isQuestion_ofNumeral? hnumeral entries h

/-- Nothing that is written in a query asks for a tree. -/
theorem isQuestion_writtenValue (piece : List Char) : IsQuestion (writtenValue piece) := by
  intro entries h
  unfold writtenValue at h
  -- Nothing behind the colon asks for the empty text, and anything else is coerced.
  split at h
  · simp at h
  · exact isQuestion_classify _ entries h

/-- What a query writes are proper tokens. -/
theorem proper_of_mem_writtenTokens {query : String} {token : Token}
    (h : token ∈ writtenTokens query) : token.Proper := by
  obtain ⟨piece, hpiece, rfl⟩ := List.mem_map.mp h
  have hpath := (of_decide_eq_true (List.mem_filter.mp hpiece).2).2
  refine ⟨hpath, ?_, ?_, isQuestion_writtenValue piece⟩
  · -- Empty names do not count.
    intro hmem
    obtain ⟨name, hname, he⟩ := List.mem_map.mp hmem
    have hne := of_decide_eq_true (List.mem_filter.mp hname).2
    exact hne (by simpa using congrArg String.toList he)
  · -- Names are pieces between dots.
    intro text hmem
    obtain ⟨name, hname, rfl⟩ := List.mem_map.mp hmem
    rw [String.toList_ofList]
    refine @Text.notMem_of_mem_pieces _ (piece.takeWhile (· != ':')) _ ?_
    rw [Text.pieces_eq_splitOn]
    exact (List.mem_filter.mp hname).1

/-! ### Survivors -/

/-- The tokens whose path no later token overlaps: none of the later paths is equal to theirs, a
proper part of its beginning, or a proper extension. -/
def survivors : List Token → List Token
  | [] => []
  | token :: later =>
    if ∃ other ∈ later, Overlaps token.path other.path then survivors later
    else token :: survivors later

/-- A further token survives, and of the others those that it does not overlap. -/
theorem survivors_append_singleton (tokens : List Token) (last : Token) :
    survivors (tokens ++ [last])
      = (survivors tokens).filter (fun token => !decide (Overlaps token.path last.path))
        ++ [last] := by
  induction tokens with
  | nil => simp [survivors]
  | cons token later ih =>
    rw [List.cons_append, survivors, survivors, ih]
    -- The first token is overlapped by a later one already, by the new one, or by none.
    by_cases hlater : ∃ other ∈ later, Overlaps token.path other.path
    · have hany : ∃ other ∈ later ++ [last], Overlaps token.path other.path := by
        obtain ⟨other, hmem, hover⟩ := hlater
        exact ⟨other, List.mem_append_left _ hmem, hover⟩
      rw [if_pos hlater, if_pos hany]
    · rw [if_neg hlater]
      by_cases hlast : Overlaps token.path last.path
      · have hany : ∃ other ∈ later ++ [last], Overlaps token.path other.path :=
          ⟨last, List.mem_append_right _ List.mem_cons_self, hlast⟩
        rw [if_pos hany, List.filter_cons_of_neg (by simp [hlast])]
      · have hnone : ¬ ∃ other ∈ later ++ [last], Overlaps token.path other.path := by
          rintro ⟨other, hmem, hover⟩
          rcases List.mem_append.mp hmem with hmem | hmem
          · exact hlater ⟨other, hmem, hover⟩
          · exact hlast (List.mem_singleton.mp hmem ▸ hover)
        rw [if_neg hnone, List.filter_cons_of_pos (by simp [hlast]), List.cons_append]

theorem mem_of_mem_survivors {tokens : List Token} {token : Token}
    (h : token ∈ survivors tokens) : token ∈ tokens := by
  induction tokens with
  | nil => exact h
  | cons first later ih =>
    rw [survivors] at h
    split at h
    · -- A token is left out, or it stays in front of what survives of the rest.
      exact List.mem_cons_of_mem _ (ih h)
    · rcases List.mem_cons.mp h with rfl | hmem
      · exact List.mem_cons_self
      · exact List.mem_cons_of_mem _ (ih hmem)

/-- The paths of survivors do not overlap. -/
theorem pairwise_survivors (tokens : List Token) :
    (survivors tokens).Pairwise fun token other => ¬ Overlaps token.path other.path := by
  induction tokens with
  | nil => exact List.Pairwise.nil
  | cons token later ih =>
    rw [survivors]
    split
    · exact ih
    · -- No later token is in the way of this one, and what survives are later tokens.
      next hnone =>
      refine List.pairwise_cons.mpr ⟨fun other hmem hover => hnone ⟨other, ?_, hover⟩, ih⟩
      exact mem_of_mem_survivors hmem

/-! ### Inserting tokens -/

theorem insertTokens_append_singleton (criteria : Criteria) (tokens : List Token) (last : Token) :
    insertTokens criteria (tokens ++ [last])
      = (insertTokens criteria tokens).insertAt last.path last.value := by
  unfold insertTokens
  rw [List.foldl_append, List.foldl_cons, List.foldl_nil]

/-- Inserting proper tokens gives a tidy tree. -/
theorem tidy_insertTokens {tokens : List Token} (h : ∀ token ∈ tokens, token.Proper) :
    Tidy (insertTokens [] tokens) := by
  induction tokens using List.reverseRecOn with
  | nil => exact Tidy.nil
  | append_singleton tokens last ih =>
    rw [insertTokens_append_singleton]
    have hlast := h last (List.mem_append_right _ List.mem_cons_self)
    exact (ih fun token hmem => h token (List.mem_append_left _ hmem)).insertAt
      hlast.named hlast.asks

/-- **The last write wins.** Whatever shape the tree takes on the way, in the end its questions are
the survivors among the tokens. -/
theorem questions_insertTokens {tokens : List Token} (h : ∀ token ∈ tokens, token.Proper) :
    (questions (insertTokens [] tokens)).Perm ((survivors tokens).map Token.question) := by
  -- The last token is the one whose insertion is seen by all others, so the induction takes the
  -- tokens from the end.
  induction tokens using List.reverseRecOn with
  | nil => exact List.Perm.refl _
  | append_singleton tokens last ih =>
    have hfirst : ∀ token ∈ tokens, token.Proper :=
      fun token hmem => h token (List.mem_append_left _ hmem)
    -- The new token is inserted into the tree of the others, which is tidy.
    have hlast := h last (List.mem_append_right _ List.mem_cons_self)
    rw [insertTokens_append_singleton, survivors_append_singleton, List.map_append, List.map_cons,
      List.map_nil]
    have hinsert := questions_insertAt (tidy_insertTokens hfirst) hlast.path_ne_nil hlast.asks
    -- What is not in the way of the new path among the questions are the survivors it leaves.
    have hapart : (apartFrom last.path (insertTokens [] tokens)).Perm
        (((survivors tokens).filter fun token => !decide (Overlaps token.path last.path)).map
          Token.question) := by
      unfold apartFrom
      have hfilter := (ih hfirst).filter fun question => !decide (Overlaps question.1 last.path)
      rw [List.filter_map] at hfilter
      exact hfilter
    -- The new question comes last among the survivors and first among the questions.
    exact hinsert.trans ((hapart.cons _).trans (List.perm_append_singleton _ _).symm)

/-! ### The order of the names -/

/-- The names with which the paths of tokens start, each where it appears first. -/
def firstNames (tokens : List Token) : List String :=
  (tokens.filterMap fun token => token.path.head?).eraseDups

private theorem keys_insertAt (criteria : Criteria) (key : String) (rest : List String)
    (value : Criterion) :
    Fields.keys (criteria.insertAt (key :: rest) value)
      = if key ∈ Fields.keys criteria then Fields.keys criteria
        else Fields.keys criteria ++ [key] := by
  cases rest with
  | nil => exact Fields.keys_insert criteria key value
  | cons next rest => exact Fields.keys_insert criteria key _

/-- A token that is replaced leaves its first name where it stands. -/
theorem keys_insertTokens {tokens : List Token} (h : ∀ token ∈ tokens, token.Proper) :
    Fields.keys (insertTokens [] tokens) = firstNames tokens := by
  induction tokens using List.reverseRecOn with
  | nil => rfl
  | append_singleton tokens last ih =>
    have hfirst := ih fun token hmem => h token (List.mem_append_left _ hmem)
    have hpath := (h last (List.mem_append_right _ List.mem_cons_self)).path_ne_nil
    obtain ⟨key, rest, hlast⟩ := List.exists_cons_of_ne_nil hpath
    -- Only the first name of the path can be new at the first level.
    rw [insertTokens_append_singleton, hlast, keys_insertAt, hfirst]
    unfold firstNames
    have hkey : [last].filterMap (fun token => token.path.head?) = [key] := by
      simp [hlast]
    -- A name that is there already is a repetition, and a new one comes last.
    rw [List.filterMap_append, hkey, Fields.eraseDups_append_singleton]

/-! ### Query strings -/

/-- Dotted texts of paths whose names hold no dots determine the paths. -/
theorem intercalate_dot_injOn {p q : List String} (hp : p ≠ []) (hq : q ≠ [])
    (hpdot : ∀ name ∈ p, '.' ∉ name.toList) (hqdot : ∀ name ∈ q, '.' ∉ name.toList)
    (h : ".".intercalate p = ".".intercalate q) : p = q := by
  -- Splitting a text at its dots gives the names back.
  have hlist := congrArg (fun text => text.toList.splitOn '.') h
  simp only [String.toList_intercalate] at hlist
  -- The names hold no dots, so that the pieces between dots are the names.
  have hsplit : ∀ names : List String, names ≠ [] → (∀ name ∈ names, '.' ∉ name.toList) →
      (['.'].intercalate (names.map String.toList)).splitOn '.' = names.map String.toList := by
    intro names hne hdot
    refine List.splitOn_intercalate '.' ?_ (by simpa using hne)
    intro text htext
    obtain ⟨name, hname, rfl⟩ := List.mem_map.mp htext
    exact hdot name hname
  have hdot : ".".toList = ['.'] := rfl
  rw [hdot, hsplit p hp hpdot, hsplit q hq hqdot] at hlist
  exact List.map_injective_iff.mpr (fun a b => String.toList_inj.mp) hlist

/-- **A query asks what its last writes ask.** The leaves of the tree that a query string stands for
are the tokens that no later token overlaps, each once and under its own dotted path. The tree is
tidy, and the names of its first level stand in the order in which the query brings them in. -/
theorem ofQuery_lastWrite (query : String) :
    (ofQuery query).leaves.Perm
        ((survivors (writtenTokens query)).map fun token => dotted token.question) ∧
      ((ofQuery query).leaves.map Prod.fst).Nodup ∧
      Tidy (ofQuery query) ∧
      Fields.keys (ofQuery query) = firstNames (writtenTokens query) := by
  have hproper : ∀ token ∈ writtenTokens query, token.Proper :=
    fun token hmem => proper_of_mem_writtenTokens hmem
  have hperm : (ofQuery query).leaves.Perm
      ((survivors (writtenTokens query)).map fun token => dotted token.question) := by
    unfold ofQuery
    rw [leaves_eq, tokens_eq_writtenTokens, ← Function.comp_def dotted, ← List.map_map]
    exact (questions_insertTokens hproper).map dotted
  refine ⟨hperm, ?_, ?_, ?_⟩
  · -- Distinct texts, by way of distinct paths.
    rw [(hperm.map Prod.fst).nodup_iff, List.map_map, List.nodup_iff_pairwise_ne, List.pairwise_map]
    -- Paths that do not overlap differ, and so do their dotted texts.
    refine (pairwise_survivors (writtenTokens query)).imp_of_mem ?_
    intro token other htoken hother hover heq
    have ht := hproper token (mem_of_mem_survivors htoken)
    have ho := hproper other (mem_of_mem_survivors hother)
    have hpath : token.path = other.path := intercalate_dot_injOn ht.path_ne_nil ho.path_ne_nil
      ht.dotless ho.dotless heq
    exact hover (hpath ▸ Or.inl List.prefix_rfl)
  · unfold ofQuery
    rw [tokens_eq_writtenTokens]
    exact tidy_insertTokens hproper
  · unfold ofQuery
    rw [tokens_eq_writtenTokens]
    exact keys_insertTokens hproper

end Criteria

end DocumentApi
