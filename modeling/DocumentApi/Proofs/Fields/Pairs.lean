import DocumentApi.Fields
import Mathlib.Data.List.Induction
import Mathlib.Data.List.Nodup

/-!
# Fields made of pairs

`Fields.ofPairs` inserts pairs from left to right, so a name that comes again changes a value that
stands there already. What comes out is described by its names and by the value of each:

* `keys_ofPairs` — a name stands where it comes first;
* `get?_ofPairs` — its value is the one that comes last;
* `ofPairs_of_nodup` — pairs whose names are distinct are left as they are;
* `merge_ofPairs` — merging fields that were made of pairs is merging the pairs, so that fields may
  be made of pairs group by group (`ofPairs_splice`).
-/

namespace DocumentApi

namespace Fields

variable {α β : Type}

theorem contains_iff {fields : Fields α} {key : String} :
    contains fields key = true ↔ key ∈ keys fields := by
  rw [contains, Option.isSome_iff_ne_none, Ne, get?_eq_none_iff, not_not]

theorem keys_append (fields others : Fields α) :
    keys (fields ++ others) = keys fields ++ keys others :=
  List.map_append

theorem mem_keys_insert {fields : Fields α} {key name : String} {value : α} :
    name ∈ keys (insert fields key value) ↔ name ∈ keys fields ∨ name = key := by
  rw [keys_insert]
  split
  · next hkey => exact ⟨Or.inl, fun h => h.elim id fun heq => heq ▸ hkey⟩
  · simp

/-- Fields of other names make no difference to whether a name is there. -/
theorem contains_append_of_notMem {others : Fields α} {key : String} (h : key ∉ keys others)
    (fields : Fields α) : contains (fields ++ others) key = contains fields key := by
  rw [Bool.eq_iff_iff, contains_iff, contains_iff, keys_append, List.mem_append, or_iff_left h]

theorem ofPairs_append_singleton (pairs : List (String × α)) (last : String × α) :
    ofPairs (pairs ++ [last]) = insert (ofPairs pairs) last.1 last.2 := by
  unfold ofPairs
  rw [List.foldl_append, List.foldl_cons, List.foldl_nil]

/-- One more name is a repetition, or it comes last. -/
theorem eraseDups_append_singleton (names : List String) (last : String) :
    (names ++ [last]).eraseDups
      = if last ∈ names.eraseDups then names.eraseDups else names.eraseDups ++ [last] := by
  rw [List.eraseDups_append]
  -- A name that was there before is removed from what comes behind.
  by_cases hmem : last ∈ names
  · rw [if_pos (List.mem_eraseDups.mpr hmem)]
    simp [List.removeAll, hmem]
  · rw [if_neg (fun hin => hmem (List.mem_eraseDups.mp hin))]
    simp [List.removeAll, hmem, List.eraseDups_cons]

/-- **The names**, each where it comes first. -/
theorem keys_ofPairs (pairs : List (String × α)) :
    keys (ofPairs pairs) = (keys pairs).eraseDups := by
  -- The last pair finds all others inserted, so the induction takes the pairs from the end.
  induction pairs using List.reverseRecOn with
  | nil => rfl
  | append_singleton pairs last ih =>
    rw [ofPairs_append_singleton, keys_insert, ih, keys_append]
    exact (eraseDups_append_singleton (keys pairs) last.1).symm

/-- Nothing is there that was not inserted. -/
theorem mem_of_mem_ofPairs {pairs : List (String × α)} {field : String × α}
    (h : field ∈ ofPairs pairs) : field ∈ pairs := by
  induction pairs using List.reverseRecOn with
  | nil => cases h
  | append_singleton pairs last ih =>
    rw [ofPairs_append_singleton] at h
    rcases mem_insert h with rfl | hbefore
    · exact List.mem_append_right _ List.mem_cons_self
    · exact List.mem_append_left _ (ih hbefore)

/-- **The values**: that of the last pair with the name. -/
theorem get?_ofPairs (pairs : List (String × α)) (key : String) :
    get? (ofPairs pairs) key = get? pairs.reverse key := by
  induction pairs using List.reverseRecOn with
  | nil => rfl
  | append_singleton pairs last ih =>
    obtain ⟨name, value⟩ := last
    -- The last pair decides for its own name, and leaves all others.
    rw [ofPairs_append_singleton, List.reverse_append, List.reverse_singleton,
      List.singleton_append, get?_cons, ← ih]
    split
    · next hname => rw [hname, get?_insert_self]
    · next hname => rw [get?_insert_of_ne hname]

theorem nodup_keys_ofPairs (pairs : List (String × α)) : (keys (ofPairs pairs)).Nodup := by
  induction pairs using List.reverseRecOn with
  | nil => exact List.nodup_nil
  | append_singleton pairs last ih =>
    rw [ofPairs_append_singleton]
    exact nodup_keys_insert ih last.1 last.2

theorem get?_append (fields others : Fields α) (key : String) :
    get? (fields ++ others) key = (get? fields key).or (get? others key) := by
  induction fields with
  | nil => exact Option.none_or.symm
  | cons field rest ih =>
    obtain ⟨name, value⟩ := field
    rw [List.cons_append, get?_cons, get?_cons, ih]
    -- The first field with the name is found in front, or not there at all.
    split
    · exact Option.some_or.symm
    · rfl

/-- A pair in front gives place to the others with its name. -/
theorem get?_ofPairs_cons {pair : String × α} {pairs : List (String × α)} {key : String} {value : α}
    (h : get? (ofPairs pairs) key = some value) : get? (ofPairs (pair :: pairs)) key = some value := by
  rw [get?_ofPairs] at h ⊢
  rw [List.reverse_cons, get?_append, h, Option.some_or]

theorem insert_of_notMem {fields : Fields α} {key : String} (h : key ∉ keys fields) (value : α) :
    insert fields key value = fields ++ [(key, value)] := by
  induction fields with
  | nil => rfl
  -- The field is not the first one, so it is looked for in the rest, and put behind it.
  | cons field rest ih =>
    obtain ⟨name, old⟩ := field
    rw [keys_cons, List.mem_cons, not_or] at h
    rw [insert, if_neg (Ne.symm h.1), ih h.2, List.cons_append]

/-- A value is replaced by the next one. -/
theorem insert_insert (fields : Fields α) (key : String) (first second : α) :
    insert (insert fields key first) key second = insert fields key second := by
  induction fields with
  | nil => simp [insert]
  | cons field rest ih =>
    obtain ⟨name, old⟩ := field
    -- The field is replaced where it stands, twice or once.
    by_cases hname : name = key
    · simp [insert, hname]
    · simp [insert, hname, ih]

/-- Inserting under a name that is there already makes no difference to where other names go. -/
theorem insert_insert_comm {fields : Fields α} {key other : String} (hkey : key ∈ keys fields)
    (hne : key ≠ other) (value later : α) :
    insert (insert fields key value) other later
      = insert (insert fields other later) key value := by
  induction fields with
  | nil => cases hkey
  | cons field rest ih =>
    obtain ⟨name, old⟩ := field
    -- The field that is replaced stays where it is, before or after the other insertion.
    by_cases hname : name = key
    · subst hname
      simp [insert, hne]
    · have hrest : key ∈ keys rest :=
        (List.mem_cons.mp hkey).resolve_left fun heq => hname heq.symm
      by_cases hother : name = other
      · simp [insert, hother, Ne.symm hne]
      · simp only [insert, if_neg hname, if_neg hother, ih hrest]

/-- **Distinct names** are no reason to change anything. -/
theorem ofPairs_of_nodup {pairs : List (String × α)} (h : (keys pairs).Nodup) :
    ofPairs pairs = pairs := by
  induction pairs using List.reverseRecOn with
  | nil => rfl
  | append_singleton pairs last ih =>
    rw [keys_append, List.nodup_append] at h
    -- The last name is new, so that its pair is put behind.
    obtain ⟨hpairs, -, hnew⟩ := h
    rw [ofPairs_append_singleton, ih hpairs, insert_of_notMem]
    exact fun hmem => hnew _ hmem _ List.mem_cons_self rfl

/-- Changing all values changes those that are left. -/
theorem ofPairs_map (f : α → β) (pairs : List (String × α)) :
    ofPairs (pairs.map fun pair => (pair.1, f pair.2))
      = (ofPairs pairs).map fun pair => (pair.1, f pair.2) := by
  -- A changed value is inserted where the value itself would be.
  have hinsert : ∀ (fields : Fields α) (key : String) (value : α),
      insert (fields.map fun pair => (pair.1, f pair.2)) key (f value)
        = (insert fields key value).map fun pair => (pair.1, f pair.2) := by
    intro fields key value
    induction fields with
    | nil => rfl
    | cons field rest ih =>
      obtain ⟨name, old⟩ := field
      rw [List.map_cons, insert, insert]
      split
      · rfl
      · rw [ih, List.map_cons]
  induction pairs using List.reverseRecOn with
  | nil => rfl
  | append_singleton pairs last ih =>
    rw [List.map_append, List.map_singleton, ofPairs_append_singleton, ofPairs_append_singleton,
      ih, hinsert]

/-- The first field whose name has a property is the first one of the first such name. -/
theorem find?_fst (fields : Fields α) (p : String → Bool) :
    fields.find? (fun field => p field.1)
      = ((keys fields).find? p).bind fun key => (get? fields key).map fun value => (key, value) := by
  induction fields with
  | nil => rfl
  | cons field rest ih =>
    obtain ⟨name, value⟩ := field
    rw [keys_cons]
    -- The first field has the property itself, or does not concern the search.
    by_cases hp : p name = true
    · simp only [List.find?_cons, hp, Option.bind_some, get?_cons, if_true, Option.map_some]
    · -- A name with the property is looked up behind the first field, which does not have it.
      simp only [List.find?_cons, hp]
      rw [ih]
      refine Option.bind_congr fun key hkey => ?_
      have hne : name ≠ key := fun he => hp (he ▸ List.find?_some hkey)
      rw [get?_cons, if_neg hne]

/-! ### Merging -/

theorem ofPairs_append (pairs later : List (String × α)) :
    ofPairs (pairs ++ later) = merge (ofPairs pairs) later :=
  List.foldl_append

theorem merge_cons (fields : Fields α) (name : String) (value : α) (later : Fields α) :
    merge fields ((name, value) :: later) = merge (insert fields name value) later :=
  rfl

/-- A value may be changed before fields of other names are merged in, or after them. -/
theorem merge_insert_of_notMem {fields later : Fields α} {key : String}
    (hkey : key ∈ keys fields) (hlater : key ∉ keys later) (value : α) :
    merge (insert fields key value) later = insert (merge fields later) key value := by
  induction later generalizing fields with
  | nil => rfl
  | cons field rest ih =>
    obtain ⟨name, added⟩ := field
    rw [keys_cons, List.mem_cons, not_or] at hlater
    obtain ⟨hne, hrest⟩ := hlater
    have hkey' : key ∈ keys (insert fields name added) := mem_keys_insert.mpr (Or.inl hkey)
    -- The first field is merged in before the value changes, as its name is another one.
    rw [merge_cons, merge_cons, insert_insert_comm hkey hne, ih hkey' hrest]

/-- **Merging one field more.** Fields that were inserted among others are inserted when these are
merged in. -/
theorem merge_insert {fields later : Fields α} (hlater : (keys later).Nodup) (key : String)
    (value : α) :
    merge fields (insert later key value) = insert (merge fields later) key value := by
  induction later generalizing fields with
  | nil => rfl
  | cons field rest ih =>
    obtain ⟨name, old⟩ := field
    obtain ⟨hname, hrest⟩ := List.nodup_cons.mp hlater
    rw [insert, merge_cons]
    by_cases hkey : name = key
    · -- The old value is merged in and replaced afterwards, or replaced before.
      subst hkey
      have hmem : name ∈ keys (insert fields name old) := mem_keys_insert.mpr (Or.inr rfl)
      rw [if_pos rfl, merge_cons, ← merge_insert_of_notMem hmem hname, insert_insert]
    · rw [if_neg hkey, merge_cons, ih hrest]

/-- **Merging what was made of pairs** is merging the pairs: a name keeps the place where it comes
first and gets the value that comes last, whether or not repetitions were dropped before. -/
theorem merge_ofPairs (fields : Fields α) (pairs : List (String × α)) :
    merge fields (ofPairs pairs) = merge fields pairs := by
  -- Pairs are inserted from left to right, so the last one is what the others get.
  induction pairs using List.reverseRecOn with
  | nil => rfl
  | append_singleton pairs last ih =>
    have hlast : merge fields (pairs ++ [last]) = insert (merge fields pairs) last.1 last.2 :=
      List.foldl_append
    rw [ofPairs_append_singleton, merge_insert (nodup_keys_ofPairs pairs), ih, hlast]

/-- Pairs among others may be made into fields before the others are. -/
theorem ofPairs_splice (before inner after : List (String × α)) :
    ofPairs (before ++ ofPairs inner ++ after) = ofPairs (before ++ inner ++ after) := by
  rw [ofPairs_append, ofPairs_append before, merge_ofPairs, ← ofPairs_append, ← ofPairs_append]

end Fields

end DocumentApi
