import DocumentApi.Document.Update
import Mathlib.Data.List.Induction

/-!
# Changes and one field

What changes do to the value of a field. The name of a change is a dotted path, and it may lead
*into* a field: its first segment is the name of the field and more segments follow. If changes are
given whose names are not that of a field, then

* `Document.get?_applyChanges_of_forall` — the field keeps its value if none of them leads into it;
* `Document.get?_applyChanges_of_exists` — otherwise its value is a document after them.

In general it is the last change whose path starts with the field that decides
(`Document.lastTouching?`): the field has the value of the change if the path ends there, and holds
a document if it goes on.
-/

namespace DocumentApi

/-! ### Segments of a path -/

theorem segments_ne_nil (path : String) : segments path ≠ [] := by
  unfold segments Text.split
  rw [Ne, List.map_eq_nil_iff]
  exact Text.pieces_ne_nil '.' path.toList

/-- A path of one segment is this segment. -/
theorem eq_of_segments_eq_singleton {path name : String} (h : segments path = [name]) :
    path = name := by
  unfold segments Text.split at h
  -- Joining one piece gives the piece.
  have hjoin := Text.join_pieces '.' path.toList
  obtain ⟨piece, hpieces, rfl⟩ := List.map_eq_singleton_iff.mp h
  rw [hpieces, Text.join] at hjoin
  rw [hjoin, String.ofList_toList]

/-- A name without dots is a path of one segment. -/
theorem segments_eq_singleton {name : String} (h : '.' ∉ name.toList) : segments name = [name] := by
  unfold segments Text.split
  rw [Text.pieces_eq_splitOn, List.splitOn_eq_singleton h, List.map_singleton, String.ofList_toList]

namespace Document

/-- Whether a dotted path leads to a place inside a field. -/
def LeadsInto (name path : String) : Prop :=
  ∃ next rest, segments path = name :: next :: rest

/-- A path of one segment leads into nothing. -/
theorem not_leadsInto {path segment : String} (h : segments path = [segment]) (name : String) :
    ¬ LeadsInto name path := by
  rintro ⟨next, rest, hsegments⟩
  rw [h] at hsegments
  exact List.cons_ne_nil next rest (List.cons.inj hsegments).2.symm

/-! ### One change -/

theorem get?_setAt_of_head?_ne {path : List String} {name : String} (h : path.head? ≠ some name)
    (document : Document) (value : Bson) :
    Fields.get? (setAt document path value) name = Fields.get? document name := by
  -- The first name of the path is the one that is inserted, and it is another one.
  match path with
  | [] => rfl
  | [first] =>
    have hfirst : first ≠ name := fun heq => h (congrArg some heq)
    exact Fields.get?_insert_of_ne hfirst document _
  | first :: next :: rest =>
    have hfirst : first ≠ name := fun heq => h (congrArg some heq)
    exact Fields.get?_insert_of_ne hfirst document _

variable {document : Document} {name : String}

/-- A change that leads into a field puts a document in its place. -/
theorem get?_applyChange_of_leadsInto {change : String × Bson} (h : LeadsInto name change.1) :
    ∃ fields, Fields.get? (applyChange document change) name = some (.document fields) := by
  obtain ⟨next, rest, hsegments⟩ := h
  unfold applyChange
  rw [hsegments, setAt]
  exact ⟨_, Fields.get?_insert_self document _ _⟩

/-- A change beside a field leaves its value as it is. -/
theorem get?_applyChange_of_not {change : String × Bson} (hname : change.1 ≠ name)
    (h : ¬ LeadsInto name change.1) :
    Fields.get? (applyChange document change) name = Fields.get? document name := by
  -- A path whose first segment is the field ends there or goes on, and it does neither.
  refine get?_setAt_of_head?_ne (fun hhead => ?_) document change.2
  cases hsegments : segments change.1 with
  | nil => exact segments_ne_nil _ hsegments
  | cons first rest =>
    rw [hsegments, List.head?_cons, Option.some.injEq] at hhead
    subst hhead
    cases rest with
    | nil => exact hname (eq_of_segments_eq_singleton hsegments)
    | cons next rest => exact h ⟨next, rest, hsegments⟩

/-! ### Several changes -/

variable {changes : Fields Bson}

/-- **Changes beside a field** leave its value as it is. -/
theorem get?_applyChanges_of_forall (hnames : name ∉ Fields.keys changes)
    (h : ∀ path ∈ Fields.keys changes, ¬ LeadsInto name path) :
    Fields.get? (applyChanges document changes) name = Fields.get? document name := by
  unfold applyChanges
  -- Each change is beside the field, so that each leaves its value.
  induction changes generalizing document with
  | nil => rfl
  | cons change rest ih =>
    obtain ⟨path, value⟩ := change
    rw [Fields.keys_cons] at hnames h
    rw [List.mem_cons, not_or] at hnames
    rw [List.forall_mem_cons] at h
    rw [List.foldl_cons, ih hnames.2 h.2, get?_applyChange_of_not (Ne.symm hnames.1) h.1]

/-- A document in the place of a field stays one, and a change into the field puts one there. -/
private theorem get?_applyChanges_of_or (document : Document)
    (hnames : name ∉ Fields.keys changes)
    (h : (∃ path ∈ Fields.keys changes, LeadsInto name path) ∨
      ∃ fields, Fields.get? document name = some (.document fields)) :
    ∃ fields, Fields.get? (applyChanges document changes) name = some (.document fields) := by
  unfold applyChanges
  induction changes generalizing document with
  | nil => exact h.resolve_left (by simp)
  | cons change rest ih =>
    obtain ⟨path, value⟩ := change
    rw [Fields.keys_cons] at hnames h
    rw [List.mem_cons, not_or] at hnames
    rw [List.foldl_cons]
    refine ih _ hnames.2 ?_
    -- The first change puts a document there, or leaves the one that is there.
    by_cases hinto : LeadsInto name path
    · exact Or.inr (get?_applyChange_of_leadsInto hinto)
    · refine h.imp ?_ ?_
      · rintro ⟨other, hother, hleads⟩
        rcases List.mem_cons.mp hother with rfl | hrest
        · exact absurd hleads hinto
        · exact ⟨other, hrest, hleads⟩
      · rintro ⟨fields, hfields⟩
        rw [get?_applyChange_of_not (Ne.symm hnames.1) hinto]
        exact ⟨fields, hfields⟩

/-- **Changes into a field** leave a document in its place. -/
theorem get?_applyChanges_of_exists (hnames : name ∉ Fields.keys changes)
    (h : ∃ path ∈ Fields.keys changes, LeadsInto name path) :
    ∃ fields, Fields.get? (applyChanges document changes) name = some (.document fields) :=
  get?_applyChanges_of_or document hnames (Or.inl h)

/-- A field that no change names keeps its value or holds a document. -/
theorem get?_applyChanges_cases (document : Document) (hnames : name ∉ Fields.keys changes) :
    Fields.get? (applyChanges document changes) name = Fields.get? document name ∨
      ∃ fields, Fields.get? (applyChanges document changes) name = some (.document fields) := by
  -- By whether any of the changes leads into it.
  by_cases h : ∃ path ∈ Fields.keys changes, LeadsInto name path
  · exact Or.inr (get?_applyChanges_of_exists hnames h)
  · exact Or.inl (get?_applyChanges_of_forall hnames fun path hpath hleads =>
      h ⟨path, hpath, hleads⟩)

/-! ### The last change that touches a field -/

/-- The last of some changes whose path starts with a field. -/
def lastTouching? (name : String) (changes : Fields Bson) : Option (String × Bson) :=
  changes.reverse.find? fun change => (segments change.1).head? == some name

theorem lastTouching?_append_singleton (name : String) (changes : Fields Bson)
    (last : String × Bson) :
    lastTouching? name (changes ++ [last])
      = if (segments last.1).head? = some name then some last else lastTouching? name changes := by
  unfold lastTouching?
  -- Seen from the end, the new change is the first that may touch the field.
  rw [List.reverse_append, List.reverse_singleton, List.singleton_append, List.find?_cons]
  by_cases h : (segments last.1).head? = some name
  · rw [if_pos h, h, beq_self_eq_true]
  · rw [if_neg h, beq_eq_false_iff_ne.mpr h]

/-- A path that starts with a field ends there, or leads into it. -/
theorem segments_cases {path : String} (h : (segments path).head? = some name) :
    segments path = [name] ∨ LeadsInto name path := by
  obtain ⟨rest, hsegments⟩ := List.head?_eq_some_iff.mp h
  cases rest with
  | nil => exact Or.inl hsegments
  | cons next rest => exact Or.inr ⟨next, rest, hsegments⟩

/-- The change that is found touches the field. -/
theorem head?_segments_of_lastTouching? {change : String × Bson}
    (h : lastTouching? name changes = some change) :
    change ∈ changes ∧ (segments change.1).head? = some name := by
  unfold lastTouching? at h
  exact ⟨List.mem_reverse.mp (List.mem_of_find?_eq_some h), by simpa using List.find?_some h⟩

/-- Changes that do not touch a field leave its value as it is. -/
theorem get?_applyChanges_of_lastTouching?_eq_none (h : lastTouching? name changes = none)
    (document : Document) :
    Fields.get? (applyChanges document changes) name = Fields.get? document name := by
  induction changes using List.reverseRecOn with
  | nil => rfl
  -- A change behind that touches the field would be the last one.
  | append_singleton changes last ih =>
    rw [lastTouching?_append_singleton] at h
    split at h
    · cases h
    · next hbeside =>
      unfold applyChanges at ih ⊢
      rw [List.foldl_append, List.foldl_cons, List.foldl_nil, applyChange,
        get?_setAt_of_head?_ne hbeside, ih h]

/-- **The last change that touches a field** is the only one that counts for its value. -/
theorem get?_applyChanges_of_lastTouching? {change : String × Bson}
    (h : lastTouching? name changes = some change) (document : Document) :
    ∃ before, Fields.get? (applyChanges document changes) name
      = Fields.get? (applyChange before change) name := by
  -- Changes behind it are beside the field, so the induction takes the changes from the end.
  induction changes using List.reverseRecOn with
  | nil => cases h
  | append_singleton changes last ih =>
    rw [lastTouching?_append_singleton] at h
    have hlast : applyChanges document (changes ++ [last])
        = applyChange (applyChanges document changes) last := by
      unfold applyChanges
      rw [List.foldl_append, List.foldl_cons, List.foldl_nil]
    rw [hlast]
    split at h
    · cases h
      exact ⟨_, rfl⟩
    · next hbeside =>
      obtain ⟨before, hbefore⟩ := ih h
      exact ⟨before, by rw [← hbefore, applyChange, get?_setAt_of_head?_ne hbeside]⟩

/-- A change whose path ends at the field gives it its value. -/
theorem get?_applyChange_of_segments {change : String × Bson} (h : segments change.1 = [name])
    (document : Document) : Fields.get? (applyChange document change) name = some change.2 := by
  unfold applyChange
  rw [h, setAt, Fields.get?_insert_self]

end Document

end DocumentApi
