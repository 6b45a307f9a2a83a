import DocumentApi.Proofs.Criteria.Joining
import DocumentApi.Proofs.FilterDocument.Meaning

/-!
# The names in a filter document

A filter document has names of two kinds. On its top level stand the dotted paths of a query, which
are what a client writes before the colons; below them stand the operators of the questions. A name
is taken for an operator if it starts with a dollar sign.

* `Bson.innerNames` — the names of fields at any depth of a value;
* `Criteria.names_toFilter` — whatever the query, the names below the top level are the three
  operators of the questions, and those of the top level are the paths of the tokens that survive.
  So there is an operator among the latter just if the first name of such a path is one;
* `Criteria.not_noForeignOperator` — and nothing keeps a client from such a name.
-/

namespace DocumentApi

namespace Bson

mutual

/-- The names of fields at any depth of a value. -/
def innerNames : Bson → List String
  | .codeWithScope _ scope => innerNamesOfFields scope
  | .array items => innerNamesOfItems items
  | .document fields => innerNamesOfFields fields
  | _ => []

/-- The names of fields at any depth of the items of a list. -/
def innerNamesOfItems : List Bson → List String
  | [] => []
  | item :: rest => innerNames item ++ innerNamesOfItems rest

/-- The names of fields and of what is below them. -/
def innerNamesOfFields : List (String × Bson) → List String
  | [] => []
  | (name, value) :: rest => name :: (innerNames value ++ innerNamesOfFields rest)

end

end Bson

namespace Criteria

/-! ### Operators -/

/-- Whether a name is taken for an operator. -/
def IsOperator (name : String) : Prop :=
  name.toList.head? = some '$'

/-- The operators of the questions. -/
def operators : List String :=
  ["$exists", "$regex", "$options"]

/-- A dotted path is taken for an operator if its first name is. -/
theorem isOperator_intercalate_iff {path : List String} (hnamed : "" ∉ path) :
    IsOperator (".".intercalate path) ↔ ∃ name ∈ path.head?, IsOperator name := by
  cases path with
  | nil => simp [IsOperator]
  | cons name rest =>
    -- A name of a query is not empty, so that the text starts with its first character.
    have hne : name.toList ≠ [] := by
      intro hnil
      rw [String.toList_eq_nil_iff] at hnil
      exact hnamed (hnil ▸ List.mem_cons_self)
    have hfirst : (".".intercalate (name :: rest)).toList.head? = name.toList.head? := by
      cases rest with
      | nil => rw [String.intercalate_singleton]
      | cons next rest =>
        rw [String.intercalate_cons_cons, String.toList_append, String.toList_append,
          List.append_assoc, List.head?_append_of_ne_nil _ hne]
    unfold IsOperator
    rw [hfirst]
    simp

/-! ### The names of entries -/

/-- The entry of a question has no names but operators below its path. -/
theorem exists_entry_innerNames (path : String) {value : Criterion} (h : IsQuestion value) :
    ∃ found : Bson, filterMeaning.meaningAt path value = [(path, found)] ∧
      found.innerNames ⊆ operators := by
  cases value with
  | nested entries => exact absurd rfl (h entries)
  -- The two questions that are not about a value have operators below their paths.
  | undefined =>
    refine ⟨_, rfl, ?_⟩
    simp [Bson.innerNames, Bson.innerNamesOfFields, operators]
  | pattern text =>
    refine ⟨_, rfl, ?_⟩
    simp [Bson.innerNames, Bson.innerNamesOfFields, operators]
  -- All others have a scalar, without names below it.
  | _ => exact ⟨_, rfl, by simp [Bson.innerNames]⟩

theorem innerNames_each {leaves : List (String × Criterion)}
    (h : ∀ leaf ∈ leaves, IsQuestion leaf.2) :
    ∀ entry ∈ (filterMeaning.each leaves).flatten, entry.2.innerNames ⊆ operators := by
  induction leaves with
  | nil => exact fun entry hentry => absurd hentry List.not_mem_nil
  -- The entries of the first leaf, and those of the rest.
  | cons leaf rest ih =>
    obtain ⟨hleaf, hrest⟩ := List.forall_mem_cons.mp h
    obtain ⟨found, hfound, hnames⟩ := exists_entry_innerNames leaf.1 hleaf
    have heach : filterMeaning.each (leaf :: rest)
        = filterMeaning.meaningAt leaf.1 leaf.2 :: filterMeaning.each rest := rfl
    rw [heach, hfound, List.flatten_cons, List.singleton_append]
    exact List.forall_mem_cons.mpr ⟨hnames, ih hrest⟩

theorem innerNames_toFilter {criteria : Criteria} (h : (criteria.leaves.map Prod.fst).Nodup) :
    ∀ entry ∈ criteria.toFilter, entry.2.innerNames ⊆ operators := by
  rw [toFilter_eq_flatten h]
  exact innerNames_each fun leaf hmem => isQuestion_of_mem_leaves hmem

theorem keys_toFilter {criteria : Criteria} (h : (criteria.leaves.map Prod.fst).Nodup) :
    Fields.keys criteria.toFilter = criteria.leaves.map Prod.fst :=
  map_fst_eq_of_standsFor filterMeaning (toFilter_forall₂ filterMeaning h)

/-! ### Queries -/

/-- **The names in the filter document of a query.** On the top level stand the dotted paths of the
tokens that no later token overlaps, each once, so that there is an operator among them if and only
if such a path starts with one. Below the top level, at any depth, stand the three operators of the
questions alone. -/
theorem names_toFilter (query : String) :
    (Fields.keys (ofQuery query).toFilter).Perm
        ((survivors (writtenTokens query)).map fun token => ".".intercalate token.path) ∧
      (Fields.keys (ofQuery query).toFilter).Nodup ∧
      ((∃ key ∈ Fields.keys (ofQuery query).toFilter, IsOperator key) ↔
        ∃ token ∈ survivors (writtenTokens query), ∃ name ∈ token.path.head?, IsOperator name) ∧
      ∀ entry ∈ (ofQuery query).toFilter, ∀ name ∈ entry.2.innerNames,
        name ∈ ["$exists", "$regex", "$options"] := by
  have hdistinct := nodup_leaves (tidy_ofQuery query) (dotless_ofQuery query)
  have hkeys := keys_toFilter hdistinct
  have hperm : (Fields.keys (ofQuery query).toFilter).Perm
      ((survivors (writtenTokens query)).map fun token => ".".intercalate token.path) := by
    -- On the top level stand the texts of the leaves, which are those of the surviving tokens.
    rw [hkeys]
    have hleaves := (leaves_ofQuery query).map Prod.fst
    rwa [List.map_map] at hleaves
  -- The names of a query are not empty, so a dotted path starts as its first name does.
  have hstarts : ∀ token ∈ survivors (writtenTokens query),
      (IsOperator (".".intercalate token.path) ↔ ∃ name ∈ token.path.head?, IsOperator name) := by
    intro token htoken
    have hproper := proper_of_mem_writtenTokens (mem_of_mem_survivors htoken)
    exact isOperator_intercalate_iff hproper.named
  refine ⟨hperm, hkeys ▸ hdistinct, ?_, innerNames_toFilter hdistinct⟩
  constructor
  · rintro ⟨key, hkey, hoperator⟩
    obtain ⟨token, htoken, rfl⟩ := List.mem_map.mp (hperm.mem_iff.mp hkey)
    exact ⟨token, htoken, (hstarts token htoken).mp hoperator⟩
  · rintro ⟨token, htoken, hoperator⟩
    exact ⟨_, hperm.mem_iff.mpr (List.mem_map_of_mem htoken), (hstarts token htoken).mpr hoperator⟩

/-- Whether a filter document has no operators but those of the questions, below its top level. -/
def NoForeignOperator (filter : Document) : Prop :=
  (∀ key ∈ Fields.keys filter, ¬ IsOperator key) ∧
    ∀ entry ∈ filter, ∀ name ∈ entry.2.innerNames, IsOperator name → name ∈ operators

/-- **A client can write an operator** where a path is expected. -/
theorem not_noForeignOperator : ¬ ∀ query, NoForeignOperator (ofQuery query).toFilter := by
  intro h
  -- The one path of the query is the name that is taken for an operator.
  have hkeys : Fields.keys (ofQuery "$where:1").toFilter = ["$where"] := by decide +kernel
  obtain ⟨htop, -⟩ := h "$where:1"
  rw [hkeys] at htop
  exact htop "$where" List.mem_cons_self rfl

end Criteria

end DocumentApi
