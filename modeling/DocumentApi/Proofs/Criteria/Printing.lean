import DocumentApi.Proofs.Criteria.Distinct
import DocumentApi.Proofs.Criteria.Spelling
import DocumentApi.Proofs.Fields.Pairs

/-!
# Criteria survive printing and reading

Criteria are printed by writing their leaves from left to right, each as its dotted path, a colon
and a spelling of what it asks, with commas between them. Reading this gives the criteria back:

* `insertTokens_questions` — inserting the questions of a tidy tree from left to right builds the
  tree again, with the names of every level in their order;
* `ofChars?_of_writesLeaf` — a printed leaf is read as the token that asks the question of the leaf;
* `ofQuery_of_prints` — both for the criteria of any query string, which are always tidy, have no
  separators in their names, and ask what can be asked.
-/

namespace DocumentApi

namespace Criteria

/-! ### Building a tree again -/

/-- The token that asks a question. -/
def Token.ofQuestion (question : List String × Criterion) : Token :=
  ⟨question.1, question.2⟩

/-- The tokens that ask all questions of a tree, from left to right. -/
def questionTokens (criteria : Criteria) : List Token :=
  (questions criteria).map Token.ofQuestion

/-- Inserting below a name builds the level below it. -/
theorem insertTokens_under {asked : List (List String × Criterion)} (hne : asked ≠ [])
    (hpaths : ∀ question ∈ asked, question.1 ≠ []) (criteria : Criteria) (key : String) :
    insertTokens criteria ((asked.map (under key)).map Token.ofQuestion)
      = Fields.insert criteria key
          (.nested (insertTokens (criteria.below key) (asked.map Token.ofQuestion))) := by
  -- The last question finds the level that the others have built.
  induction asked using List.reverseRecOn with
  | nil => exact absurd rfl hne
  | append_singleton asked last ih =>
    obtain ⟨path, value⟩ := last
    have hlast : path ≠ [] := hpaths (path, value) (List.mem_append_right _ List.mem_cons_self)
    obtain ⟨next, rest, rfl⟩ := List.exists_cons_of_ne_nil hlast
    have hinsert : ∀ level : Criteria,
        level.insertAt (key :: next :: rest) value
          = Fields.insert level key (.nested ((level.below key).insertAt (next :: rest) value)) :=
      fun level => rfl
    rw [List.map_append, List.map_append, List.map_append, List.map_singleton, List.map_singleton,
      List.map_singleton, insertTokens_append_singleton, insertTokens_append_singleton]
    change (insertTokens _ _).insertAt (key :: next :: rest) value
      = Fields.insert criteria key (.nested ((insertTokens _ _).insertAt (next :: rest) value))
    -- A single question creates the level, and a further one goes to the level that is there.
    by_cases hasked : asked = []
    · subst hasked
      exact hinsert criteria
    · have hfirst : ∀ question ∈ asked, question.1 ≠ [] :=
        fun question hmem => hpaths question (List.mem_append_left _ hmem)
      rw [ih hasked hfirst, hinsert, Fields.insert_insert]
      unfold Criteria.below
      rw [Fields.get?_insert_self]

/-- One entry: if the level below it, if there is one, is built again by its questions, then so is
the entry, behind names that are others. -/
theorem insertTokens_entry {key : String} {value : Criterion}
    (hbelow : ∀ nested, value = .nested nested →
      nested ≠ [] ∧ insertTokens [] (questionTokens nested) = nested)
    {criteria : Criteria} (hnew : key ∉ Fields.keys criteria) :
    insertTokens criteria (((questionsOf value).map (under key)).map Token.ofQuestion)
      = criteria ++ [(key, value)] := by
  -- A tree is built by the questions in it, of which there are some; a question is inserted as it
  -- is.
  cases value with
  | nested nested =>
    obtain ⟨hfilled, hnested⟩ := hbelow nested rfl
    have hasked : questions nested ≠ [] := by
      intro hnone
      unfold questionTokens at hnested
      rw [hnone] at hnested
      exact hfilled hnested.symm
    have hpaths : ∀ question ∈ questions nested, question.1 ≠ [] := by
      intro question hquestion
      obtain ⟨name, names, hpath, -⟩ := exists_cons_of_mem_questions hquestion
      rw [hpath]
      exact List.cons_ne_nil name names
    -- There is no level below the name yet.
    have hnone : criteria.below key = [] := by
      unfold Criteria.below
      rw [Fields.get?_eq_none_iff.mpr hnew]
    rw [questionsOf, insertTokens_under hasked hpaths, hnone]
    change Fields.insert criteria key (.nested (insertTokens [] (questionTokens nested))) = _
    rw [hnested, Fields.insert_of_notMem hnew]
  | _ => exact Fields.insert_of_notMem hnew _

/-- One level: if every level below is built again by its questions, then so is the level itself,
behind names that it does not have. -/
theorem insertTokens_level {entries : Criteria} (hnames : (Fields.keys entries).Nodup)
    (hbelow : ∀ key nested, (key, Criterion.nested nested) ∈ entries →
      nested ≠ [] ∧ insertTokens [] (questionTokens nested) = nested)
    {criteria : Criteria} (hnew : ∀ key ∈ Fields.keys entries, key ∉ Fields.keys criteria) :
    insertTokens criteria (questionTokens entries) = criteria ++ entries := by
  induction entries generalizing criteria with
  | nil => exact (List.append_nil criteria).symm
  | cons entry rest ih =>
    obtain ⟨key, value⟩ := entry
    rw [Fields.keys_cons, List.nodup_cons] at hnames
    rw [Fields.keys_cons, List.forall_mem_cons] at hnew
    -- The first entry is built behind the others that are there.
    have hfirst : insertTokens criteria (((questionsOf value).map (under key)).map Token.ofQuestion)
        = criteria ++ [(key, value)] :=
      insertTokens_entry (fun nested heq => hbelow key nested (heq ▸ List.mem_cons_self)) hnew.1
    -- The names of the rest are new too, since the level has every name once.
    have hrest : ∀ name ∈ Fields.keys rest, name ∉ Fields.keys (criteria ++ [(key, value)]) := by
      intro name hname hmem
      rw [Fields.keys_append, List.mem_append] at hmem
      rcases hmem with hold | hsame
      · exact hnew.2 name hname hold
      · obtain rfl : name = key := List.mem_singleton.mp hsame
        exact hnames.1 hname
    have hstep := ih hnames.2
      (fun name nested hmem => hbelow name nested (List.mem_cons_of_mem _ hmem)) hrest
    calc
      insertTokens criteria (questionTokens ((key, value) :: rest))
          = insertTokens
              (insertTokens criteria
                (((questionsOf value).map (under key)).map Token.ofQuestion))
              (questionTokens rest) := by
            unfold questionTokens insertTokens
            rw [questions, List.map_append, List.foldl_append]
      _ = criteria ++ [(key, value)] ++ rest := by rw [hfirst, hstep]
      _ = criteria ++ (key, value) :: rest := by rw [List.append_assoc, List.singleton_append]

/-- **Building a tree again.** The questions of a tidy tree, inserted from left to right, make up the
tree, in the same order at every depth. -/
theorem insertTokens_questions {criteria : Criteria} (h : Tidy criteria) :
    insertTokens [] (questionTokens criteria) = criteria := by
  induction h with
  | mk distinct _ filled _ ih =>
    -- Every level is built again, from the innermost ones on.
    have hbelow := fun key nested hmem => And.intro (filled key nested hmem) (ih key nested hmem)
    exact insertTokens_level distinct hbelow fun _ _ => List.not_mem_nil

/-! ### Printed leaves -/

/-- A leaf is written as its path, a colon and a spelling of what it asks. -/
def WritesLeaf (leaf : String × Criterion) (piece : List Char) : Prop :=
  ∃ cs, Criterion.Spells leaf.2 cs ∧ piece = leaf.1.toList ++ ':' :: cs

/-- Whether a text prints criteria: their leaves in order, with commas between them. -/
def Prints (criteria : Criteria) (text : String) : Prop :=
  ∃ pieces, List.Forall₂ WritesLeaf criteria.leaves pieces ∧
    text.toList = [','].intercalate pieces

/-- A name without any of the characters that a query gives a meaning of its own. -/
structure IsName (name : String) : Prop where
  ne_empty : name ≠ ""
  no_dot : '.' ∉ name.toList
  no_colon : ':' ∉ name.toList
  no_comma : ',' ∉ name.toList

/-- A question that a token can ask. -/
structure IsAsked (question : List String × Criterion) : Prop where
  path_ne_nil : question.1 ≠ []
  names : ∀ name ∈ question.1, IsName name
  askable : Criterion.Askable question.2

/-- The names of a token stand before its first colon, between dots, and within commas. -/
theorem isName_of_mem_pathOf {path : List Char} (hcolon : ':' ∉ path) (hcomma : ',' ∉ path)
    {name : String} (h : name ∈ Token.pathOf path) : IsName name := by
  obtain ⟨cs, hcs, rfl⟩ := List.mem_map.mp h
  obtain ⟨hpiece, hne⟩ := List.mem_filter.mp hcs
  have htext : (String.ofList cs).toList = cs := String.toList_ofList
  -- The name is a piece between dots, which is kept only if it is not empty.
  refine ⟨?_, ?_, ?_, ?_⟩
  · intro hempty
    rw [← htext, hempty] at hne
    exact absurd hne (by decide)
  · rw [htext]
    exact Text.notMem_of_mem_pieces hpiece
  · rw [htext]
    exact fun hmem => hcolon (Text.mem_of_mem_pieces hpiece hmem)
  · rw [htext]
    exact fun hmem => hcomma (Text.mem_of_mem_pieces hpiece hmem)

/-- What a query asks, a token can ask. -/
theorem isAsked_of_mem_questions {query : String} {question : List String × Criterion}
    (h : question ∈ questions (ofQuery query)) : IsAsked question := by
  obtain ⟨token, htoken, rfl⟩ := exists_token_of_mem_questions h
  have hproper := proper_of_mem_writtenTokens htoken
  rw [← tokens_eq_writtenTokens] at htoken
  obtain ⟨piece, hpiece, hread⟩ := List.mem_filterMap.mp htoken
  have hcomma : ',' ∉ piece := Text.notMem_of_mem_pieces hpiece
  obtain ⟨⟨path, cs⟩, hcut, htoken⟩ := Option.bind_eq_some_iff.mp hread
  -- The path is what stands before the first colon of a piece between commas.
  rw [Text.cut?_eq] at hcut
  split_ifs at hcut
  rw [Option.some.injEq, Prod.mk.injEq] at hcut
  obtain ⟨rfl, rfl⟩ := hcut
  simp only at htoken
  split_ifs at htoken
  rw [Option.some.injEq] at htoken
  subst htoken
  refine ⟨hproper.path_ne_nil, fun name hname => ?_, Criterion.askable_valueOf _⟩
  refine isName_of_mem_pathOf ?_ ?_ hname
  · -- What is taken before the first colon holds none.
    intro hmem
    exact absurd (List.mem_takeWhile_imp hmem) (by decide)
  · intro hmem
    exact hcomma (List.takeWhile_subset _ hmem)

/-- The text of a path is cut at its dots into the names. -/
theorem pathOf_intercalate {path : List String} (hne : path ≠ [])
    (hnames : ∀ name ∈ path, IsName name) :
    Token.pathOf (".".intercalate path).toList = path := by
  have hfilled : (path.map String.toList).filter (!·.isEmpty) = path.map String.toList := by
    rw [List.filter_eq_self]
    intro text htext
    obtain ⟨name, hname, rfl⟩ := List.mem_map.mp htext
    have hempty : name.toList ≠ [] :=
      fun heq => (hnames name hname).ne_empty (String.toList_eq_nil_iff.mp heq)
    simpa using hempty
  unfold Token.pathOf
  rw [Text.pieces_intercalate rfl hne fun name hname => (hnames name hname).no_dot, hfilled,
    List.map_map]
  exact List.map_id'' (fun name => String.ofList_toList) path

/-- **A printed leaf** is read as the token that asks its question, and holds no comma. -/
theorem ofChars?_of_writesLeaf {question : List String × Criterion} (h : IsAsked question)
    {piece : List Char} (hpiece : WritesLeaf (dotted question) piece) :
    Token.ofChars? piece = some (Token.ofQuestion question) ∧ ',' ∉ piece := by
  obtain ⟨cs, hspells, rfl⟩ := hpiece
  obtain ⟨path, value⟩ := question
  obtain ⟨hne, hnames, haskable⟩ := h
  change Criterion.Spells value cs at hspells
  change Token.ofChars? ((".".intercalate path).toList ++ ':' :: cs) = some ⟨path, value⟩ ∧
    ',' ∉ (".".intercalate path).toList ++ ':' :: cs
  -- Neither a colon nor a comma can come from the names or from the dots between them.
  have hcolon : ':' ∉ (".".intercalate path).toList :=
    Text.notMem_intercalate (by decide) fun name hname => (hnames name hname).no_colon
  have hcomma : ',' ∉ (".".intercalate path).toList :=
    Text.notMem_intercalate (by decide) fun name hname => (hnames name hname).no_comma
  constructor
  · -- The first colon is the one behind the path.
    unfold Token.ofChars?
    rw [Text.cut?_append hcolon, Option.bind_some]
    simp only
    rw [pathOf_intercalate hne hnames, Criterion.valueOf_of_spells haskable hspells]
    exact if_neg (by simpa using hne)
  · -- The comma is none of the path, of the colon and of the spelling.
    rw [List.mem_append, List.mem_cons, not_or, not_or]
    exact ⟨hcomma, by decide, Criterion.comma_notMem_of_spells haskable hspells⟩

/-! ### Printed criteria -/

/-- Printed leaves are read as the tokens that ask their questions. -/
theorem filterMap_ofChars?_of_writes {asked : List (List String × Criterion)}
    (hasked : ∀ question ∈ asked, IsAsked question) {pieces : List (List Char)}
    (h : List.Forall₂ (fun question piece => WritesLeaf (dotted question) piece) asked pieces) :
    pieces.filterMap Token.ofChars? = asked.map Token.ofQuestion ∧ ∀ piece ∈ pieces, ',' ∉ piece := by
  induction h with
  | nil => exact ⟨rfl, fun _ hmem => absurd hmem List.not_mem_nil⟩
  | @cons question piece asked pieces hpiece _ ih =>
    -- The first piece is read as the first token, and the others as the others.
    obtain ⟨hfirst, hothers⟩ := List.forall_mem_cons.mp hasked
    obtain ⟨htoken, hcomma⟩ := ofChars?_of_writesLeaf hfirst hpiece
    obtain ⟨htokens, hcommas⟩ := ih hothers
    refine ⟨?_, List.forall_mem_cons.mpr ⟨hcomma, hcommas⟩⟩
    rw [List.filterMap_cons, htoken, htokens, List.map_cons]

/-- The tokens of a printed tree ask its questions. -/
theorem tokens_of_prints {criteria : Criteria}
    (hasked : ∀ question ∈ questions criteria, IsAsked question) {text : String}
    (h : Prints criteria text) : tokens text = questionTokens criteria := by
  obtain ⟨pieces, hpieces, htext⟩ := h
  -- The leaves are the questions with dotted paths, so that pieces and questions go together.
  rw [leaves_eq, List.forall₂_map_left_iff] at hpieces
  obtain ⟨hread, hcommas⟩ := filterMap_ofChars?_of_writes hasked hpieces
  unfold tokens questionTokens
  rw [htext, ← hread]
  by_cases hnone : pieces = []
  · -- Without a leaf there is a single piece, which is empty and asks nothing.
    subst hnone
    rfl
  · rw [Text.pieces_eq_splitOn, List.splitOn_intercalate ',' hcommas hnone]

/-- **Reading what is printed** gives the tree back. -/
theorem ofQuery_eq_of_prints {criteria : Criteria} (htidy : Tidy criteria)
    (hasked : ∀ question ∈ questions criteria, IsAsked question) {text : String}
    (h : Prints criteria text) : ofQuery text = criteria :=
  calc
    ofQuery text = insertTokens [] (tokens text) := rfl
    _ = insertTokens [] (questionTokens criteria) := by rw [tokens_of_prints hasked h]
    _ = criteria := insertTokens_questions htidy

/-- A tree of questions that tokens can ask has a printed form. -/
theorem exists_prints {criteria : Criteria}
    (hasked : ∀ question ∈ questions criteria, IsAsked question) :
    ∃ text, Prints criteria text := by
  -- Every leaf is written in some way.
  have hpieces : ∃ pieces, List.Forall₂ WritesLeaf criteria.leaves pieces := by
    rw [leaves_eq]
    generalize questions criteria = asked at hasked
    induction asked with
    | nil => exact ⟨[], List.Forall₂.nil⟩
    | cons question rest ih =>
      obtain ⟨hfirst, hothers⟩ := List.forall_mem_cons.mp hasked
      obtain ⟨cs, hcs⟩ := Criterion.exists_spells hfirst.askable
      obtain ⟨pieces, hrest⟩ := ih hothers
      exact ⟨_, List.Forall₂.cons ⟨cs, hcs, rfl⟩ hrest⟩
  obtain ⟨pieces, hpieces⟩ := hpieces
  exact ⟨String.ofList ([','].intercalate pieces), pieces, hpieces, String.toList_ofList⟩

/-- **What patterns can be asked for**: exactly the texts that have nothing to trim and no other
form. -/
theorem isPatternText_iff (pattern : String) :
    Criterion.IsPatternText pattern ↔
      ∃ query path, (path, Criterion.pattern pattern) ∈ (ofQuery query).leaves := by
  constructor
  · -- A tree of one pattern is tidy and can be asked, so it is printed, and read from what is
    -- printed.
    intro h
    have htidy : Tidy [("a", .pattern pattern)] :=
      Tidy.nil.insert (by decide) fun _ heq => Criterion.noConfusion heq
    have hasked : ∀ question ∈ questions [("a", .pattern pattern)], IsAsked question := by
      intro question hquestion
      obtain rfl := List.mem_singleton.mp hquestion
      have hname : IsName "a" := ⟨by decide, by decide, by decide, by decide⟩
      exact ⟨List.cons_ne_nil _ _, List.forall_mem_singleton.mpr hname, .pattern h⟩
    obtain ⟨text, htext⟩ := exists_prints hasked
    refine ⟨text, "a", ?_⟩
    rw [ofQuery_eq_of_prints htidy hasked htext]
    exact List.mem_cons_self
  · -- The other way round, what a query asks can be asked, so that its patterns are such texts.
    rintro ⟨query, path, hleaf⟩
    rw [leaves_eq] at hleaf
    obtain ⟨question, hquestion, heq⟩ := List.mem_map.mp hleaf
    have haskable := (isAsked_of_mem_questions hquestion).askable
    rw [show question.2 = .pattern pattern from congrArg Prod.snd heq] at haskable
    cases haskable with
    | pattern h => exact h

/-- **Criteria survive printing and reading.** The criteria of any query string can be printed, and
whatever text prints them is read as the same criteria: the same questions at the same names, and
the names of every level in the same order. Patterns are no exception, whatever characters they
hold: those that some query asks for are all texts that have nothing to trim and no other form. -/
theorem ofQuery_of_prints (query : String) :
    (∃ text, Prints (ofQuery query) text) ∧
      (∀ text, Prints (ofQuery query) text → ofQuery text = ofQuery query) ∧
      ∀ pattern, Criterion.IsPatternText pattern ↔
        ∃ source path, (path, Criterion.pattern pattern) ∈ (ofQuery source).leaves := by
  have hasked : ∀ question ∈ questions (ofQuery query), IsAsked question :=
    fun question hmem => isAsked_of_mem_questions hmem
  have htidy : Tidy (ofQuery query) := tidy_ofQuery query
  exact ⟨exists_prints hasked, fun text hprints => ofQuery_eq_of_prints htidy hasked hprints,
    isPatternText_iff⟩

/-- Two texts of one tree: a pattern of a comma, a colon and a percent sign with digits of either
case, and beside it, below the same name, a number in two spellings. -/
theorem ofQuery_of_prints_twoTexts :
    Prints (ofQuery "n.b:%2C%3A%25,n.a:1.5") "n.b:%2c%3a%25,n.a:15e-1" ∧
      ofQuery "n.b:%2c%3a%25,n.a:15e-1" = ofQuery "n.b:%2C%3A%25,n.a:1.5" := by
  have hupper : Text.Percent.Encodes ",:%" "%2C%3A%25".toList :=
    ⟨[['%', '2', 'C'], ['%', '3', 'A'], ['%', '2', '5']],
      .cons ⟨'2', 'C', 2, 12, rfl, rfl, rfl, rfl⟩ (.cons ⟨'3', 'A', 3, 10, rfl, rfl, rfl, rfl⟩
        (.cons ⟨'2', '5', 2, 5, rfl, rfl, rfl, rfl⟩ .nil)), rfl⟩
  have hlower : Text.Percent.Encodes ",:%" "%2c%3a%25".toList := Text.Percent.encodes_encode ",:%"
  have htext : Criterion.IsPatternText ",:%" := ⟨by decide, rfl, by decide, rfl⟩
  have hpattern : Token.valueOf "%2C%3A%25".toList = .pattern ",:%" :=
    Criterion.valueOf_of_spells (.pattern htext) (.pattern (by decide) hupper)
  have hnumber : Criterion.ofNumber (Numeral.Decimal.toBinary64 ⟨false, 15, -1⟩)
      = .double (Numeral.Decimal.toBinary64 ⟨false, 15, -1⟩) := by
    have hint : (Numeral.Decimal.toBinary64 ⟨false, 15, -1⟩).toInt? = none := by decide +kernel
    unfold Criterion.ofNumber
    rw [hint]
  have hdouble : Token.valueOf "1.5".toList
      = .double (Numeral.Decimal.toBinary64 ⟨false, 15, -1⟩) :=
    (Criterion.valueOf_numeral (by decide) (by decide +kernel) (by decide +kernel)).trans hnumber
  have hquery : ofQuery "n.b:%2C%3A%25,n.a:1.5"
      = [("n", .nested [("b", .pattern ",:%"),
          ("a", .double (Numeral.Decimal.toBinary64 ⟨false, 15, -1⟩))])] := by
    rw [← hpattern, ← hdouble]
    rfl
  have hprints : Prints (ofQuery "n.b:%2C%3A%25,n.a:1.5") "n.b:%2c%3a%25,n.a:15e-1" := by
    rw [hquery]
    have hread : Numeral.readReal? "15e-1".toList
        = some (Numeral.Decimal.toBinary64 ⟨false, 15, -1⟩) :=
      Criterion.readReal?_of_read? (by decide)
    exact ⟨["n.b:%2c%3a%25".toList, "n.a:15e-1".toList],
      .cons ⟨_, .pattern (by decide) hlower, rfl⟩ (.cons ⟨_, .double hread, rfl⟩ .nil), rfl⟩
  exact ⟨hprints, (ofQuery_of_prints _).2.1 _ hprints⟩

end Criteria

end DocumentApi
