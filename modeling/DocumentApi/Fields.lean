/-!
# Ordered fields

Documents, JSON objects and criteria are all lists of named fields whose order matters: it decides
what is written first and which of two failures is met first. A `Fields α` is such a list. Its view
is the partial function `Fields.get?` together with the list `Fields.keys`; every operation below is
described by what it does to these two.

* `Fields.insert` replaces the value of a name in place, or appends a new field at the end
  (`get?_insert_self`, `get?_insert_of_ne`, `keys_insert_of_mem`, `keys_insert_of_notMem`);
* `Fields.ofPairs` inserts one pair after another, so a repeated name keeps its first place and
  takes its last value.
-/

namespace DocumentApi

/-- Named values in order. -/
abbrev Fields (α : Type) := List (String × α)

namespace Fields

variable {α β : Type}

/-- The names, in order. -/
def keys (fields : Fields α) : List String :=
  fields.map Prod.fst

/-- The value of the first field called `key`. -/
def get? : Fields α → String → Option α
  | [], _ => none
  | (name, value) :: rest, key => if name = key then some value else get? rest key

/-- Whether some field is called `key`. -/
def contains (fields : Fields α) (key : String) : Bool :=
  (get? fields key).isSome

/-- Gives `key` the value `value`: in place if there is such a field, else as a new last field. -/
def insert : Fields α → String → α → Fields α
  | [], key, value => [(key, value)]
  | (name, old) :: rest, key, value =>
    if name = key then (name, value) :: rest else (name, old) :: insert rest key value

/-- Inserts the pairs from left to right into no fields at all. -/
def ofPairs (pairs : List (String × α)) : Fields α :=
  pairs.foldl (fun fields pair => insert fields pair.1 pair.2) []

/-- Inserts every field of `later` into `fields`, from left to right. -/
def merge (fields later : Fields α) : Fields α :=
  later.foldl (fun merged pair => insert merged pair.1 pair.2) fields

@[simp] theorem get?_nil (key : String) : get? ([] : Fields α) key = none := rfl

theorem get?_cons (name key : String) (value : α) (rest : Fields α) :
    get? ((name, value) :: rest) key = if name = key then some value else get? rest key := rfl

@[simp] theorem get?_insert_self (fields : Fields α) (key : String) (value : α) :
    get? (insert fields key value) key = some value := by
  induction fields with
  | nil => simp [insert, get?]
  | cons field rest ih =>
    obtain ⟨name, old⟩ := field
    by_cases h : name = key <;> simp [insert, get?, h, ih]

theorem get?_insert_of_ne {key other : String} (h : key ≠ other) (fields : Fields α) (value : α) :
    get? (insert fields key value) other = get? fields other := by
  induction fields with
  | nil => simp [insert, get?, h]
  | cons field rest ih =>
    obtain ⟨name, old⟩ := field
    by_cases hk : name = key
    · subst hk; simp [insert, get?, h]
    · simp only [insert, hk, if_false, get?, ih]

theorem get?_eq_none_iff {fields : Fields α} {key : String} :
    get? fields key = none ↔ key ∉ keys fields := by
  induction fields with
  | nil => simp [keys]
  | cons field rest ih =>
    obtain ⟨name, value⟩ := field
    by_cases h : name = key
    · simp [get?, keys, h]
    · simp only [get?, h, if_false, ih]
      simp only [keys, List.map_cons, List.mem_cons, not_or]
      exact ⟨fun hr => ⟨fun he => h he.symm, hr⟩, fun hr => hr.2⟩

@[simp] theorem keys_nil : keys ([] : Fields α) = [] := rfl

@[simp] theorem keys_cons (name : String) (value : α) (rest : Fields α) :
    keys ((name, value) :: rest) = name :: keys rest := rfl

theorem mem_of_get?_eq_some {fields : Fields α} {key : String} {value : α}
    (h : get? fields key = some value) : (key, value) ∈ fields := by
  induction fields with
  | nil => exact absurd h (by simp)
  | cons field rest ih =>
    obtain ⟨name, old⟩ := field
    rw [get?_cons] at h
    split at h
    · next hk =>
      rw [Option.some.injEq] at h
      subst hk h
      exact List.mem_cons_self
    · exact List.mem_cons_of_mem _ (ih h)

theorem mem_keys_of_mem {fields : Fields α} {key : String} {value : α}
    (h : (key, value) ∈ fields) : key ∈ keys fields :=
  List.mem_map_of_mem h

/-- Under distinct names every field is the one that its name leads to. -/
theorem get?_eq_some_of_mem {fields : Fields α} (hnodup : (keys fields).Nodup) {key : String}
    {value : α} (h : (key, value) ∈ fields) : get? fields key = some value := by
  induction fields with
  | nil => exact absurd h (by simp)
  | cons field rest ih =>
    obtain ⟨name, old⟩ := field
    rw [keys_cons, List.nodup_cons] at hnodup
    rw [get?_cons]
    rcases List.mem_cons.mp h with heq | hmem
    · obtain ⟨rfl, rfl⟩ := Prod.mk.inj heq
      rw [if_pos rfl]
    · have hne : name ≠ key := fun he => hnodup.1 (he ▸ mem_keys_of_mem hmem)
      rw [if_neg hne]
      exact ih hnodup.2 hmem

/-- A field of the result is the inserted one or was there before. -/
theorem mem_insert {fields : Fields α} {key : String} {value : α} {field : String × α}
    (h : field ∈ insert fields key value) : field = (key, value) ∨ field ∈ fields := by
  induction fields with
  | nil => exact Or.inl (List.mem_singleton.mp h)
  | cons first rest ih =>
    obtain ⟨name, old⟩ := first
    rw [insert] at h
    split at h
    · next hk =>
      subst hk
      exact (List.mem_cons.mp h).imp_right (List.mem_cons_of_mem _)
    · rcases List.mem_cons.mp h with heq | hmem
      · exact Or.inr (heq ▸ List.mem_cons_self)
      · exact (ih hmem).imp_right (List.mem_cons_of_mem _)

/-- Giving a field the value that it has changes nothing. -/
theorem insert_of_get?_eq_some {fields : Fields α} {key : String} {value : α}
    (h : get? fields key = some value) : insert fields key value = fields := by
  induction fields with
  | nil => exact absurd h (by simp)
  | cons field rest ih =>
    obtain ⟨name, old⟩ := field
    rw [get?_cons] at h
    rw [insert]
    split at h
    · next hk =>
      rw [Option.some.injEq] at h
      rw [if_pos hk, h]
    · next hk => rw [if_neg hk, ih h]

theorem insert_ne_nil (fields : Fields α) (key : String) (value : α) :
    insert fields key value ≠ [] := by
  cases fields with
  | nil => simp [insert]
  | cons field rest => rw [insert]; split <;> simp

theorem keys_insert_of_mem {fields : Fields α} {key : String} (h : key ∈ keys fields) (value : α) :
    keys (insert fields key value) = keys fields := by
  induction fields with
  | nil => simp [keys] at h
  | cons field rest ih =>
    obtain ⟨name, old⟩ := field
    by_cases hk : name = key
    · simp [insert, keys, hk]
    · have hr : key ∈ keys rest := by
        simp only [keys, List.map_cons, List.mem_cons] at h
        exact h.resolve_left fun he => hk he.symm
      simp only [insert, hk, if_false]
      simpa [keys] using ih hr

theorem keys_insert_of_notMem {fields : Fields α} {key : String} (h : key ∉ keys fields)
    (value : α) : keys (insert fields key value) = keys fields ++ [key] := by
  induction fields with
  | nil => simp [insert, keys]
  | cons field rest ih =>
    obtain ⟨name, old⟩ := field
    simp only [keys, List.map_cons, List.mem_cons, not_or] at h
    have hk : name ≠ key := fun he => h.1 he.symm
    simp only [insert, hk, if_false]
    simpa [keys] using ih h.2

/-- The names after an insertion: a new one comes last. -/
theorem keys_insert (fields : Fields α) (key : String) (value : α) :
    keys (insert fields key value) =
      if key ∈ keys fields then keys fields else keys fields ++ [key] := by
  split
  · next h => exact keys_insert_of_mem h value
  · next h => exact keys_insert_of_notMem h value

theorem nodup_keys_insert {fields : Fields α} (h : (keys fields).Nodup) (key : String)
    (value : α) : (keys (insert fields key value)).Nodup := by
  rw [keys_insert]
  split
  · exact h
  · next hnew =>
    rw [List.nodup_append]
    refine ⟨h, by simp, ?_⟩
    intro a ha b hb hab
    rw [List.mem_singleton.mp hb] at hab
    exact hnew (hab ▸ ha)

end Fields

end DocumentApi
