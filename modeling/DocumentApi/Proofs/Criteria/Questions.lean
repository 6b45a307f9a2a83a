import DocumentApi.Criteria
import Mathlib.Data.List.Infix

/-!
# The questions of a tree of criteria

The leaves of a tree of criteria carry dotted texts, which hide the names that lead to them. Here
the tree is seen through its **questions**, each with the list of names that leads to it, and the
effect of an insertion is said in terms of paths alone:

* `questions_insertAt` — inserting a question keeps exactly the questions whose path does not
  overlap the new one, whatever the shape of the tree;
* `Tidy.insertAt` — insertion keeps the tree tidy: the names of every level are distinct and not
  empty, and no entry leads to an empty level;
* `leaves_eq` — the leaves are the questions with their names joined by dots.

Two paths overlap if one of them leads through or up to the end of the other. The obvious lemma
about a single level (`questions_insert`) does not mention overlapping at all: it says that the
questions below one name are exchanged. Overlapping appears when levels are put together, since
the question at the end of a path and the questions below it are in each other's way.
-/

namespace DocumentApi

namespace Criteria

/-! ### Paths in each other's way -/

/-- Whether one of two paths leads through, or up to, the end of the other: they are equal or one
of them properly extends the other. -/
def Overlaps (p q : List String) : Prop :=
  p <+: q ∨ q <+: p

instance (p q : List String) : Decidable (Overlaps p q) :=
  inferInstanceAs (Decidable (_ ∨ _))

@[simp] theorem overlaps_nil_left (q : List String) : Overlaps [] q :=
  Or.inl (List.nil_prefix)

@[simp] theorem overlaps_cons_cons (key name : String) (p q : List String) :
    Overlaps (key :: p) (name :: q) ↔ key = name ∧ Overlaps p q := by
  unfold Overlaps
  rw [List.cons_prefix_cons, List.cons_prefix_cons, eq_comm (a := name), and_or_left]

theorem Overlaps.symm {p q : List String} (h : Overlaps p q) : Overlaps q p :=
  Or.symm h

/-! ### The questions of a tree -/

/-- A question with its path, put below a name. -/
def under (key : String) (question : List String × Criterion) : List String × Criterion :=
  (key :: question.1, question.2)

@[simp] theorem under_fst (key : String) (question : List String × Criterion) :
    (under key question).1 = key :: question.1 := rfl

mutual

/-- The questions in one criterion, each with the names that lead to it from there. -/
def questionsOf : Criterion → List (List String × Criterion)
  | .nested entries => questions entries
  | leaf => [([], leaf)]

/-- The questions of a tree, each with the names that lead to it. -/
def questions : List (String × Criterion) → List (List String × Criterion)
  | [] => []
  | (key, value) :: rest => (questionsOf value).map (under key) ++ questions rest

end

/-- Whether a criterion asks something of a value itself. -/
def IsQuestion (value : Criterion) : Prop :=
  ∀ entries, value ≠ .nested entries

theorem questionsOf_of_isQuestion {value : Criterion} (h : IsQuestion value) :
    questionsOf value = [([], value)] := by
  cases value with
  | nested entries => exact absurd rfl (h entries)
  | _ => rfl

/-- The path of a question starts with a name of the first level. -/
theorem exists_cons_of_mem_questions {question : List String × Criterion} {criteria : Criteria}
    (h : question ∈ questions criteria) :
    ∃ key path, question.1 = key :: path ∧ key ∈ Fields.keys criteria := by
  induction criteria with
  | nil => simp [questions] at h
  | cons entry rest ih =>
    obtain ⟨key, value⟩ := entry
    -- The question stands below the first name, or is one of the rest.
    rw [questions, List.mem_append, List.mem_map] at h
    rcases h with ⟨inner, -, rfl⟩ | hrest
    · exact ⟨key, inner.1, rfl, List.mem_cons_self⟩
    · obtain ⟨name, path, hpath, hname⟩ := ih hrest
      exact ⟨name, path, hpath, List.mem_cons_of_mem _ hname⟩

/-! ### One level -/

/-- Whether the path of a question starts with a name. -/
def startsWith (key : String) (question : List String × Criterion) : Bool :=
  question.1.head? == some key

/-- The questions below one name start with this name and with no other one. -/
theorem startsWith_of_mem_under {key name : String} {inner : List (List String × Criterion)}
    {question : List String × Criterion} (h : question ∈ inner.map (under name)) :
    startsWith key question = (name == key) := by
  obtain ⟨below, -, rfl⟩ := List.mem_map.mp h
  simp [startsWith]

/-- No question starts with a name that the level does not have. -/
theorem startsWith_eq_false {key : String} {criteria : Criteria}
    (h : key ∉ Fields.keys criteria) {question : List String × Criterion}
    (hq : question ∈ questions criteria) : startsWith key question = false := by
  obtain ⟨name, path, hpath, hname⟩ := exists_cons_of_mem_questions hq
  have hne : name ≠ key := fun he => h (he ▸ hname)
  simp [startsWith, hpath, hne]

/-- **The questions below one name.** Those that start with the name are the ones of its entry. -/
theorem filter_startsWith {criteria : Criteria} (hnodup : (Fields.keys criteria).Nodup)
    (key : String) :
    (questions criteria).filter (startsWith key)
      = ((Fields.get? criteria key).elim [] questionsOf).map (under key) := by
  induction criteria with
  | nil => rfl
  | cons entry rest ih =>
    obtain ⟨name, value⟩ := entry
    rw [Fields.keys_cons, List.nodup_cons] at hnodup
    -- The entries before and behind the one with the name contribute nothing.
    rw [questions, List.filter_append, Fields.get?_cons]
    by_cases hk : name = key
    · -- The first entry has the name, and no other one does.
      subst hk
      have hall : ((questionsOf value).map (under name)).filter (startsWith name)
          = (questionsOf value).map (under name) := by
        rw [List.filter_eq_self]
        intro question hq
        simp [startsWith_of_mem_under hq]
      have hnone : (questions rest).filter (startsWith name) = [] := by
        rw [List.filter_eq_nil_iff]
        intro question hq
        simp [startsWith_eq_false hnodup.1 hq]
      rw [hall, hnone, List.append_nil, if_pos rfl, Option.elim_some]
    · -- The first entry has another name, so that its questions are dropped.
      have hnone : ((questionsOf value).map (under name)).filter (startsWith key) = [] := by
        rw [List.filter_eq_nil_iff]
        intro question hq
        simp [startsWith_of_mem_under hq, hk]
      rw [hnone, List.nil_append, ih hnodup.2, if_neg hk]

/-- **One level.** Giving a name a criterion exchanges the questions below that name. -/
theorem questions_insert {criteria : Criteria} (hnodup : (Fields.keys criteria).Nodup)
    (key : String) (value : Criterion) :
    (questions (Fields.insert criteria key value)).Perm
      ((questionsOf value).map (under key)
        ++ (questions criteria).filter (fun question => !startsWith key question)) := by
  induction criteria with
  | nil => simp [Fields.insert, questions]
  | cons entry rest ih =>
    obtain ⟨name, old⟩ := entry
    rw [Fields.keys_cons, List.nodup_cons] at hnodup
    rw [Fields.insert]
    by_cases hk : name = key
    · -- The first entry is the one that is exchanged.
      subst hk
      have hnone : ((questionsOf old).map (under name)).filter
          (fun question => !startsWith name question) = [] := by
        rw [List.filter_eq_nil_iff]
        intro question hq
        simp [startsWith_of_mem_under hq]
      have hall : (questions rest).filter (fun question => !startsWith name question)
          = questions rest := by
        rw [List.filter_eq_self]
        intro question hq
        simp [startsWith_eq_false hnodup.1 hq]
      rw [if_pos rfl, questions, questions, List.filter_append, hnone, hall, List.nil_append]
    · -- The first entry stays as it is.
      have hall : ((questionsOf old).map (under name)).filter
          (fun question => !startsWith key question) = (questionsOf old).map (under name) := by
        rw [List.filter_eq_self]
        intro question hq
        simp [startsWith_of_mem_under hq, hk]
      rw [if_neg hk, questions, questions, List.filter_append, hall]
      -- The new questions come in below the rest, and have to be moved to the front.
      refine ((ih hnodup.2).append_left _).trans ?_
      rw [← List.append_assoc, ← List.append_assoc]
      exact List.perm_append_comm.append_right _

/-! ### Tidy trees -/

/-- A tree whose levels have distinct names, none of them empty, and in which every entry that
leads further down leads to at least one other entry. -/
inductive Tidy : Criteria → Prop
  | mk {criteria : Criteria} (distinct : (Fields.keys criteria).Nodup)
      (named : "" ∉ Fields.keys criteria)
      (filled : ∀ key entries, (key, Criterion.nested entries) ∈ criteria → entries ≠ [])
      (below : ∀ key entries, (key, Criterion.nested entries) ∈ criteria → Tidy entries) :
      Tidy criteria

theorem Tidy.nil : Tidy [] :=
  .mk List.nodup_nil List.not_mem_nil (fun _ _ h => absurd h List.not_mem_nil)
    (fun _ _ h => absurd h List.not_mem_nil)

theorem Tidy.distinct {criteria : Criteria} (h : Tidy criteria) :
    (Fields.keys criteria).Nodup := by
  cases h with
  | mk distinct => exact distinct

/-- The level below a name is tidy, also when there is none. -/
theorem Tidy.tidy_below {criteria : Criteria} (h : Tidy criteria) (key : String) :
    Tidy (criteria.below key) := by
  cases h with
  -- The level is one of the tree, or the empty one.
  | mk _ _ _ hbelow =>
    unfold Criteria.below
    split
    · next entries hget => exact hbelow key entries (Fields.mem_of_get?_eq_some hget)
    · exact Tidy.nil

/-- Giving a name that is not empty a criterion keeps a tree tidy, provided that what the criterion
leads to is tidy and not empty. -/
theorem Tidy.insert {criteria : Criteria} (h : Tidy criteria) {key : String} (hkey : key ≠ "")
    {value : Criterion}
    (hvalue : ∀ entries, value = .nested entries → entries ≠ [] ∧ Tidy entries) :
    Tidy (Fields.insert criteria key value) := by
  cases h with
  | mk distinct named filled below =>
    -- An entry is the new one, or it was there before.
    have hentry : ∀ name entries,
        (name, Criterion.nested entries) ∈ Fields.insert criteria key value →
        entries ≠ [] ∧ Tidy entries := by
      intro name entries hmem
      rcases Fields.mem_insert hmem with heq | hold
      · exact hvalue entries (Prod.mk.inj heq).2.symm
      · exact ⟨filled name entries hold, below name entries hold⟩
    refine .mk (Fields.nodup_keys_insert distinct key value) ?_
      (fun name entries hmem => (hentry name entries hmem).1)
      (fun name entries hmem => (hentry name entries hmem).2)
    -- The name was there, or it is added and is not empty.
    rw [Fields.keys_insert]
    split
    · exact named
    · rw [List.mem_append, List.mem_singleton]
      exact fun hmem => hmem.elim named (fun he => hkey he.symm)

theorem insertAt_ne_nil (criteria : Criteria) {path : List String} (hpath : path ≠ [])
    (value : Criterion) : criteria.insertAt path value ≠ [] := by
  match path, hpath with
  | [key], _ => exact Fields.insert_ne_nil criteria key value
  | key :: next :: rest, _ => exact Fields.insert_ne_nil criteria key _

/-- **Insertion keeps a tree tidy.** The levels that it creates on the way hold the rest of the
path, so none of them stays empty. -/
theorem Tidy.insertAt {criteria : Criteria} (h : Tidy criteria) {path : List String}
    (hpath : "" ∉ path) {value : Criterion} (hvalue : IsQuestion value) :
    Tidy (criteria.insertAt path value) := by
  -- The path leads from level to level, so the tree is any level.
  induction path generalizing criteria with
  | nil => exact h
  | cons key rest ih =>
    -- A path of one name puts the question here, and a longer one goes on in the level below.
    rw [List.mem_cons, not_or] at hpath
    cases rest with
    | nil =>
      exact h.insert (Ne.symm hpath.1) (fun entries he => absurd he (hvalue entries))
    | cons next rest =>
      refine h.insert (Ne.symm hpath.1) (fun entries he => ?_)
      rw [Criterion.nested.injEq] at he
      subst he
      exact ⟨insertAt_ne_nil _ (List.cons_ne_nil _ _) value, ih (h.tidy_below key) hpath.2⟩

/-! ### Insertion at the end of a path -/

/-- The questions of a tree that are not in the way of a path. -/
def apartFrom (path : List String) (criteria : Criteria) : List (List String × Criterion) :=
  (questions criteria).filter fun question => !decide (Overlaps question.1 path)

/-- The questions of the level below a name, put back below it, that are not in the way of a path:
a question that stands at the name itself is always in the way. -/
private theorem filter_below {criteria : Criteria} (hnodup : (Fields.keys criteria).Nodup)
    (key : String) {rest : List String} :
    ((questions criteria).filter (startsWith key)).filter
        (fun question => !decide (Overlaps question.1 (key :: rest)))
      = (apartFrom rest (criteria.below key)).map (under key) := by
  -- A path through the name is in the way of a question below it as the rests of the two are.
  rw [filter_startsWith hnodup, List.filter_map]
  have hpred : (fun question : List String × Criterion =>
        !decide (Overlaps question.1 (key :: rest))) ∘ under key
      = fun question => !decide (Overlaps question.1 rest) := by
    funext question
    simp
  rw [hpred]
  congr 1
  -- Below the name there is a level, or a question, or nothing; only a level has questions apart.
  unfold apartFrom Criteria.below
  cases hget : Fields.get? criteria key with
  | none => rfl
  | some value =>
    cases value with
    | nested entries => rfl
    | _ => simp [questionsOf, questions]

/-- The questions outside the level below a name are not in the way of a path through it. -/
private theorem filter_beside (criteria : Criteria) (key : String) (rest : List String) :
    ((questions criteria).filter (fun question => !startsWith key question)).filter
        (fun question => !decide (Overlaps question.1 (key :: rest)))
      = (questions criteria).filter (fun question => !startsWith key question) := by
  rw [List.filter_eq_self]
  intro question hq
  rw [List.mem_filter] at hq
  -- Such a question starts with another name than the path does.
  obtain ⟨name, path, hpath, -⟩ := exists_cons_of_mem_questions hq.1
  have hne : name ≠ key := by
    intro he
    have hstarts := hq.2
    rw [startsWith, hpath] at hstarts
    simp [he] at hstarts
  simp [hpath, hne]

/-- The questions that are not in the way of a path are those of the level below its first name
and those of the other names. -/
theorem apartFrom_cons_perm {criteria : Criteria} (hnodup : (Fields.keys criteria).Nodup)
    (key : String) (rest : List String) :
    (apartFrom (key :: rest) criteria).Perm
      ((apartFrom rest (criteria.below key)).map (under key)
        ++ (questions criteria).filter (fun question => !startsWith key question)) := by
  -- The questions are split by their first name, and what is in the way is left out on both sides.
  have hsplit := List.filter_append_perm (startsWith key) (questions criteria)
  have h := (hsplit.filter fun question => !decide (Overlaps question.1 (key :: rest))).symm
  rw [List.filter_append, filter_below hnodup, filter_beside] at h
  exact h

/-- **Insertion.** A question inserted at the end of a path is there afterwards, together with
exactly those questions of the tree that were not in its way. -/
theorem questions_insertAt {criteria : Criteria} (h : Tidy criteria) {path : List String}
    (hpath : path ≠ []) {value : Criterion} (hvalue : IsQuestion value) :
    (questions (criteria.insertAt path value)).Perm
      ((path, value) :: apartFrom path criteria) := by
  induction path generalizing criteria with
  | nil => exact absurd rfl hpath
  | cons key rest ih =>
    have hapart := apartFrom_cons_perm h.distinct key rest
    cases rest with
    | nil =>
      -- Every question below the name is in the way of the path that ends there
      have hnone : apartFrom [] (criteria.below key) = [] := by
        unfold apartFrom
        rw [List.filter_eq_nil_iff]
        intro question _
        simp [(overlaps_nil_left question.1).symm]
      rw [hnone, List.map_nil, List.nil_append] at hapart
      have hone := questions_insert h.distinct key value
      rw [questionsOf_of_isQuestion hvalue] at hone
      exact hone.trans (hapart.symm.cons _)
    | cons next rest =>
      -- Below the name the rest of the path is inserted, and beside it nothing changes.
      have hbelow := ih (h.tidy_below key) (List.cons_ne_nil _ _)
      have hone := questions_insert h.distinct key
        (.nested ((criteria.below key).insertAt (next :: rest) value))
      rw [questionsOf] at hone
      calc
        (questions (criteria.insertAt (key :: next :: rest) value)).Perm _ := hone
        List.Perm _ (under key (next :: rest, value)
            :: (apartFrom (next :: rest) (criteria.below key)).map (under key)
            ++ (questions criteria).filter (fun question => !startsWith key question)) :=
          (hbelow.map (under key)).append_right _
        List.Perm _ ((key :: next :: rest, value) :: apartFrom (key :: next :: rest) criteria) :=
          hapart.symm.cons _

/-! ### Leaves -/

/-- The text of a path that continues another one. -/
def textFrom (path : String) (names : List String) : String :=
  names.foldl (fun text name => extend (some text) name) path

mutual

/-- The leaves of a criterion are its questions with the names that lead to them. -/
theorem leavesAt_eq (path : String) (value : Criterion) :
    leavesAt path value
      = (questionsOf value).map (fun question => (textFrom path question.1, question.2)) := by
  cases value with
  | nested entries =>
    rw [leavesAt, questionsOf, leavesBelow_eq]
  | _ => rfl

/-- The leaves below a path. -/
theorem leavesBelow_eq (path : String) (entries : List (String × Criterion)) :
    leavesBelow (some path) entries
      = (questions entries).map (fun question => (textFrom path question.1, question.2)) := by
  match entries with
  | [] => rfl
  | (key, value) :: rest =>
    rw [leavesBelow, questions, leavesAt_eq, leavesBelow_eq, List.map_append, List.map_map]
    rfl

end

theorem intercalate_cons_eq_textFrom (key : String) (names : List String) :
    ".".intercalate (key :: names) = textFrom key names := by
  induction names generalizing key with
  -- A further name is put behind the text so far.
  | nil => exact String.intercalate_singleton
  | cons name rest ih =>
    rw [String.intercalate_cons_cons, ← String.intercalate_cons_append, ih]
    rfl

/-- The question with its path as a dotted text. -/
def dotted (question : List String × Criterion) : String × Criterion :=
  (".".intercalate question.1, question.2)

/-- **Leaves.** The leaves of a tree are its questions with their names joined by dots. -/
theorem leaves_eq (criteria : Criteria) : criteria.leaves = (questions criteria).map dotted := by
  unfold leaves
  induction criteria with
  | nil => rfl
  | cons entry rest ih =>
    -- The first name is the text of the level below it.
    obtain ⟨key, value⟩ := entry
    rw [leavesBelow, questions, ih, List.map_append, List.map_map, leavesAt_eq]
    congr 1
    refine List.map_congr_left (fun question _ => ?_)
    rw [Function.comp_apply, dotted, under_fst, intercalate_cons_eq_textFrom]
    rfl

end Criteria

end DocumentApi
