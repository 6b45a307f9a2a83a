import DocumentApi.Proofs.Document.Untouched

/-!
# The laws of making changes

Changes to a document are made one after another, and their paths may be in each other's way in any
manner. The laws of an ordered list of changes (`Document.ChangeLaws`):

* a change that no later one is in the way of is read back;
* making all of them again changes nothing, not even the order of fields;
* changes of which no two are in each other's way may be made in any order, and in two parts in
  either order, so that none of them is lost.

The first law is the frame of `DocumentApi.Proofs.Document.Untouched`, and the third one the
exchange of two neighbours. Making changes again (`Bson.writeAll_writeAll`) is not a matter of two
changes: `a.b` undoes a later `a` until `a` is made again. What carries it is that under every name
a list of changes does the same as its part below this name (`Bson.writesBelow`). If this part replaces
the value as a whole, then what was there before does not count; otherwise it is a list of changes
to the document under the name, with shorter paths.
-/

namespace DocumentApi

namespace Bson

/-- Puts values at the ends of paths inside another value, one after another. -/
def writeAll (old : Bson) (writes : List (List String × Bson)) : Bson :=
  writes.foldl (fun value write => value.writeAt write.1 write.2) old

@[simp] theorem writeAll_nil (old : Bson) : old.writeAll [] = old := rfl

theorem writeAll_cons (old : Bson) (write : List String × Bson)
    (rest : List (List String × Bson)) :
    old.writeAll (write :: rest) = (old.writeAt write.1 write.2).writeAll rest := rfl

/-- Changes to a document, made one after another, are written into it one after another. -/
theorem document_applyChanges (document : Document) (changes : Fields Bson) :
    .document (document.applyChanges changes)
      = (Bson.document document).writeAll
          (changes.map fun change => (segments change.1, change.2)) := by
  -- Each change is a write at the segments of its name.
  induction changes generalizing document with
  | nil => rfl
  | cons change rest ih =>
    rw [Document.applyChanges_cons, ih, List.map_cons, writeAll_cons,
      document_setAt (segments_ne_nil change.1)]

/-! ### What is written below a name -/

/-- The writes whose paths start with a name, without this name. -/
def writesBelow (name : String) : List (List String × Bson) → List (List String × Bson)
  | [] => []
  | ([], _) :: rest => writesBelow name rest
  | (first :: path, value) :: rest =>
    if first = name then (path, value) :: writesBelow name rest else writesBelow name rest

/-- The writes whose paths start with another name. -/
def writesBeside (name : String) : List (List String × Bson) → List (List String × Bson)
  | [] => []
  | ([], _) :: rest => writesBeside name rest
  | (first :: path, value) :: rest =>
    if first = name then writesBeside name rest else (first :: path, value) :: writesBeside name rest

theorem mem_writesBelow {name : String} {path : List String} {value : Bson}
    {writes : List (List String × Bson)} :
    (path, value) ∈ writesBelow name writes ↔ (name :: path, value) ∈ writes := by
  induction writes with
  | nil => simp [writesBelow]
  | cons write rest ih =>
    -- A write starts with the name, with another one, or is of the whole value.
    obtain ⟨_ | ⟨first, others⟩, written⟩ := write
    · simp [writesBelow, ih]
    · by_cases hfirst : first = name
      · simp [writesBelow, hfirst, ih]
      · simp [writesBelow, hfirst, ih, Ne.symm hfirst]

theorem mem_writesBeside {name : String} {write : List String × Bson}
    {writes : List (List String × Bson)} :
    write ∈ writesBeside name writes ↔
      write ∈ writes ∧ ∃ first path, write.1 = first :: path ∧ first ≠ name := by
  induction writes with
  | nil => simp [writesBeside]
  | cons head rest ih =>
    obtain ⟨_ | ⟨first, others⟩, written⟩ := head
    · -- An empty path has no first name, so it stands on neither side.
      rw [writesBeside, ih, List.mem_cons, or_and_right, or_iff_right]
      rintro ⟨rfl, other, path, hpath, -⟩
      cases hpath
    · rw [writesBeside]
      by_cases hfirst : first = name
      · rw [if_pos hfirst, ih, List.mem_cons, or_and_right, or_iff_right]
        rintro ⟨rfl, other, path, hpath, hother⟩
        cases hpath
        exact hother hfirst
      · rw [if_neg hfirst, List.mem_cons, List.mem_cons, ih, or_and_right]
        refine or_congr_left (iff_self_and.mpr ?_)
        rintro rfl
        exact ⟨first, others, rfl, hfirst⟩

/-- Below another name nothing is left out. -/
theorem writesBelow_writesBeside {name other : String} (h : other ≠ name)
    (writes : List (List String × Bson)) :
    writesBelow other (writesBeside name writes) = writesBelow other writes := by
  induction writes with
  | nil => rfl
  | cons write rest ih =>
    -- What is left out starts with the name, and so does not count below another one.
    obtain ⟨_ | ⟨first, path⟩, value⟩ := write
    · exact ih
    · by_cases hfirst : first = name
      · rw [writesBeside, if_pos hfirst, writesBelow, if_neg (hfirst ▸ Ne.symm h), ih]
      · rw [writesBeside, if_neg hfirst, writesBelow, writesBelow, ih]

/-- Below the name itself nothing is left. -/
theorem writesBelow_writesBeside_self (name : String) (writes : List (List String × Bson)) :
    writesBelow name (writesBeside name writes) = [] := by
  rw [List.eq_nil_iff_forall_not_mem]
  rintro ⟨path, value⟩ hmem
  obtain ⟨-, first, others, hpath, hne⟩ := mem_writesBeside.mp (mem_writesBelow.mp hmem)
  rw [List.cons.injEq] at hpath
  exact hne hpath.1.symm

variable {writes : List (List String × Bson)}

/-- **Under a name** a list of writes does what its part below the name does. -/
theorem field?_writeAll (hwrites : ∀ write ∈ writes, write.1 ≠ []) (old : Bson) (name : String) :
    (old.writeAll writes).field? name
      = if writesBelow name writes = [] then old.field? name
        else some ((old.held name).writeAll (writesBelow name writes)) := by
  induction writes generalizing old with
  | nil => rfl
  | cons write rest ih =>
    rw [List.forall_mem_cons] at hwrites
    obtain ⟨path, value⟩ := write
    obtain ⟨first, path, rfl⟩ := List.exists_cons_of_ne_nil hwrites.1
    -- The first write is below the name or beside it, and what it leaves is what the rest is
    -- written into.
    rw [writeAll_cons, ih hwrites.2, writesBelow]
    by_cases hfirst : first = name
    · subst hfirst
      rw [if_pos rfl, if_neg (List.cons_ne_nil _ _), writeAll_cons, field?_writeAt_cons_self,
        held_writeAt_cons_self]
      -- If this is the last write below the name, then it is what is found.
      split
      · next hrest => rw [hrest, writeAll_nil]
      · rfl
    · rw [if_neg hfirst, field?_writeAt_cons_of_ne hfirst, held_writeAt_cons_of_ne hfirst]

/-- What is written below the first name of a document is written into its first field, and
everything else into the other fields. -/
theorem writeAll_document_cons (hwrites : ∀ write ∈ writes, write.1 ≠ []) (name : String)
    (value : Bson) (fields : Document) :
    (Bson.document ((name, value) :: fields)).writeAll writes
      = .document ((name, value.writeAll (writesBelow name writes)) ::
          ((Bson.document fields).writeAll (writesBeside name writes)).innerFields) := by
  induction writes generalizing value fields with
  | nil => rfl
  | cons write rest ih =>
    rw [List.forall_mem_cons] at hwrites
    obtain ⟨path, written⟩ := write
    obtain ⟨first, path, rfl⟩ := List.exists_cons_of_ne_nil hwrites.1
    rw [writeAll_cons, writeAt_cons, writesBelow, writesBeside]
    by_cases hfirst : first = name
    · -- The write replaces the first field, and goes on from the value that the field has.
      subst hfirst
      have hheld : (Bson.document ((first, value) :: fields)).held first = value := by
        rw [held_document, Fields.get?_cons, if_pos rfl, Option.getD_some]
      rw [if_pos rfl, if_pos rfl, hheld, writeAll_cons]
      simp only [innerFields]
      rw [Fields.insert, if_pos rfl]
      exact ih hwrites.2 _ fields
    · -- The write passes over the first field.
      have hheld : (Bson.document ((name, value) :: fields)).held first
          = (Bson.document fields).held first := by
        rw [held_document, Fields.get?_cons, if_neg (Ne.symm hfirst), held_document]
      rw [if_neg hfirst, if_neg hfirst, hheld, writeAll_cons, writeAt_cons]
      simp only [innerFields]
      rw [Fields.insert, if_neg (Ne.symm hfirst)]
      exact ih hwrites.2 value _

/-! ### Writing again -/

/-- **A document that keeps every field** under writes below its names is kept, with the order of its
fields. -/
theorem writeAll_document_eq_self {fields : Document} (hwrites : ∀ write ∈ writes, write.1 ≠ [])
    (hnames : ∀ name, writesBelow name writes ≠ [] → name ∈ Fields.keys fields)
    (hvalues : ∀ name value, Fields.get? fields name = some value →
      value.writeAll (writesBelow name writes) = value) :
    (Bson.document fields).writeAll writes = .document fields := by
  induction fields generalizing writes with
  | nil =>
    -- Every write would be below some name.
    cases writes with
    | nil => rfl
    | cons write rest =>
      obtain ⟨path, written⟩ := write
      obtain ⟨first, path, rfl⟩ := List.exists_cons_of_ne_nil (hwrites _ List.mem_cons_self)
      have hbelow : writesBelow first ((first :: path, written) :: rest) ≠ [] :=
        List.ne_nil_of_mem (mem_writesBelow.mpr List.mem_cons_self)
      exact absurd (hnames first hbelow) List.not_mem_nil
  | cons field rest ih =>
    obtain ⟨name, value⟩ := field
    -- The first field is kept by what is written below it, and the rest by what is written beside
    -- it.
    have hfirst : value.writeAll (writesBelow name writes) = value :=
      hvalues name value (by rw [Fields.get?_cons, if_pos rfl])
    have hrest : (Bson.document rest).writeAll (writesBeside name writes) = .document rest := by
      refine ih (fun write hmem => hwrites write (mem_writesBeside.mp hmem).1) ?_ ?_
      · intro other hother
        by_cases hname : other = name
        · rw [hname, writesBelow_writesBeside_self] at hother
          exact absurd rfl hother
        · rw [writesBelow_writesBeside hname] at hother
          exact (List.mem_cons.mp (hnames other hother)).resolve_left hname
      · intro other found hfound
        by_cases hname : other = name
        · rw [hname, writesBelow_writesBeside_self, writeAll_nil]
        · rw [writesBelow_writesBeside hname]
          exact hvalues other found (by rw [Fields.get?_cons, if_neg (Ne.symm hname), hfound])
    rw [writeAll_document_cons hwrites, hfirst, hrest]
    rfl

/-- Once a value is replaced as a whole, it does not count what was there before. -/
theorem writeAll_eq_of_exists_nil (h : ∃ write ∈ writes, write.1 = []) (old other : Bson) :
    old.writeAll writes = other.writeAll writes := by
  induction writes generalizing old other with
  | nil =>
    obtain ⟨write, hmem, -⟩ := h
    exact absurd hmem List.not_mem_nil
  | cons write rest ih =>
    rw [writeAll_cons, writeAll_cons]
    -- The write that replaces the value makes both the same; before it they may differ.
    by_cases hwrite : write.1 = []
    · rw [hwrite, writeAt_nil, writeAt_nil]
    · refine ih ?_ _ _
      obtain ⟨found, hmem, hfound⟩ := h
      rcases List.mem_cons.mp hmem with rfl | hrest
      · exact absurd hfound hwrite
      · exact ⟨found, hrest, hfound⟩

/-- Writing anywhere inside a value leaves a document. -/
theorem exists_writeAll_eq_document (hne : writes ≠ [])
    (hwrites : ∀ write ∈ writes, write.1 ≠ []) (old : Bson) :
    ∃ fields, old.writeAll writes = .document fields := by
  -- It is the last write that leaves the document.
  obtain ⟨earlier, last, rfl⟩ := (List.eq_nil_or_concat' writes).resolve_left hne
  obtain ⟨first, path, hpath⟩ :=
    List.exists_cons_of_ne_nil (hwrites last (List.mem_append_right _ List.mem_cons_self))
  have hlast : old.writeAll (earlier ++ [last])
      = (old.writeAll earlier).writeAt (first :: path) last.2 := by
    unfold writeAll
    rw [List.foldl_append, List.foldl_cons, List.foldl_nil, hpath]
  exact ⟨_, hlast.trans (writeAt_cons _ first path last.2)⟩

/-- **Writing again** what was written changes nothing. -/
theorem writeAll_writeAll (writes : List (List String × Bson)) (old : Bson) :
    (old.writeAll writes).writeAll writes = old.writeAll writes := by
  -- The part below a name has shorter paths, so the induction is on a bound of their lengths.
  obtain ⟨bound, hbound⟩ : ∃ bound, ∀ write ∈ writes, write.1.length < bound := by
    obtain ⟨bound, hbound⟩ := exists_forall_length_lt (writes.map Prod.fst)
    exact ⟨bound, fun write hmem => hbound write.1 (List.mem_map_of_mem hmem)⟩
  induction bound generalizing writes old with
  | zero =>
    rw [List.eq_nil_iff_forall_not_mem.mpr fun write hmem => Nat.not_lt_zero _ (hbound write hmem)]
    rfl
  | succ bound ih =>
    by_cases hend : ∃ write ∈ writes, write.1 = []
    · -- The value is replaced both times, so it does not count what the first time left.
      exact writeAll_eq_of_exists_nil hend _ _
    · have hwrites : ∀ write ∈ writes, write.1 ≠ [] :=
        fun write hmem hnil => hend ⟨write, hmem, hnil⟩
      by_cases hne : writes = []
      · rw [hne]
        rfl
      -- Every value under a name comes from the part of the writes below it.
      obtain ⟨fields, hfields⟩ := exists_writeAll_eq_document hne hwrites old
      have hget : ∀ name, Fields.get? fields name
          = if writesBelow name writes = [] then old.field? name
            else some ((old.held name).writeAll (writesBelow name writes)) := by
        intro name
        rw [← field?_writeAll hwrites, hfields]
        rfl
      rw [hfields]
      refine writeAll_document_eq_self hwrites ?_ ?_
      · -- A name that is written is there after the first time.
        intro name hbelow
        by_contra hname
        have hnone := hget name
        rw [if_neg hbelow, Fields.get?_eq_none_iff.mpr hname] at hnone
        cases hnone
      · -- Under a name the same writes are made again, with shorter paths.
        intro name value hvalue
        by_cases hbelow : writesBelow name writes = []
        · rw [hbelow, writeAll_nil]
        · rw [hget name, if_neg hbelow, Option.some.injEq] at hvalue
          rw [← hvalue]
          refine ih (writesBelow name writes) (old.held name) ?_
          rintro ⟨path, written⟩ hmem
          exact Nat.lt_of_succ_lt_succ (hbound _ (mem_writesBelow.mp hmem))

end Bson

namespace Document

open Criteria (Overlaps)

/-! ### Changes again, and in another order -/

/-- **Making changes again** changes nothing. -/
theorem applyChanges_applyChanges (document : Document) (changes : Fields Bson) :
    applyChanges (applyChanges document changes) changes = applyChanges document changes := by
  have hagain := Bson.writeAll_writeAll (changes.map fun change => (segments change.1, change.2))
    (.document document)
  rw [← Bson.document_applyChanges, ← Bson.document_applyChanges] at hagain
  exact Bson.document.inj hagain

/-- Whether two changes are not in each other's way. -/
def ChangesApart (change other : String × Bson) : Prop :=
  ¬ Overlaps (segments change.1) (segments other.1)

theorem ChangesApart.symm {change other : String × Bson} (h : ChangesApart change other) :
    ChangesApart other change :=
  fun hoverlaps => h hoverlaps.symm

theorem document_applyChange (document : Document) (change : String × Bson) :
    .document (applyChange document change)
      = (Bson.document document).writeAt (segments change.1) change.2 :=
  Bson.document_setAt (segments_ne_nil change.1) document change.2

theorem Reordered.applyChange {a b : Document} (change : String × Bson) (h : Reordered a b) :
    Reordered (applyChange a change) (applyChange b change) := by
  unfold Reordered
  rw [document_applyChange, document_applyChange]
  exact Bson.Reordered.writeAt h (segments change.1) change.2

theorem reordered_applyChange_applyChange (document : Document) {change other : String × Bson}
    (h : ChangesApart change other) :
    Reordered (applyChange (applyChange document change) other)
      (applyChange (applyChange document other) change) := by
  unfold Reordered
  simp only [document_applyChange]
  exact Bson.reordered_writeAt_writeAt h (.document document) change.2 other.2

/-- **Changes in another order** make the same document up to the order of fields, if no two of them
are in each other's way. -/
theorem reordered_applyChanges {changes others : Fields Bson} (hperm : others.Perm changes)
    (hapart : changes.Pairwise ChangesApart) (document : Document) :
    Reordered (applyChanges document others) (applyChanges document changes) :=
  Reordered.foldl_of_perm ChangesApart.symm Reordered.applyChange
    reordered_applyChange_applyChange hperm
    ((hperm.pairwise_iff ChangesApart.symm).mpr hapart) document

/-- A change that no later one is in the way of is read back. -/
theorem resolve_applyChanges_of_last {change : String × Bson} {earlier later : Fields Bson}
    (h : ∀ other ∈ later, ChangesApart other change) (document : Document) :
    (applyChanges document (earlier ++ change :: later)).resolve change.1 = [change.2] :=
  resolve_eq_singleton (valueAt?_applyChanges_of_last h document)

/-- Every one of some changes puts its value at the end of its path, if no two of them are in each
other's way. -/
theorem valueAt?_applyChanges_of_pairwise {changes : Fields Bson}
    (hapart : changes.Pairwise ChangesApart) {change : String × Bson} (hmem : change ∈ changes)
    (document : Document) :
    (Bson.document (applyChanges document changes)).valueAt? (segments change.1)
      -- Later changes are apart from this one.
      = some change.2 := by
  obtain ⟨earlier, later, rfl⟩ := List.append_of_mem hmem
  have hlater := (List.pairwise_cons.mp (List.pairwise_append.mp hapart).2.1).1
  exact valueAt?_applyChanges_of_last (fun other hother => (hlater other hother).symm) document

theorem resolve_applyChanges_of_pairwise {changes : Fields Bson}
    (hapart : changes.Pairwise ChangesApart) {change : String × Bson} (hmem : change ∈ changes)
    (document : Document) : (applyChanges document changes).resolve change.1 = [change.2] :=
  resolve_eq_singleton (valueAt?_applyChanges_of_pairwise hapart hmem document)

/-- **The laws of making changes** to a document from left to right. -/
structure ChangeLaws (document : Document) (changes : Fields Bson) : Prop where
  /-- The path of a change reaches its value and nothing else, if no later change is in its way. -/
  read_back : ∀ earlier change later, changes = earlier ++ change :: later →
    (∀ other ∈ later, ChangesApart change other) →
      (applyChanges document changes).resolve change.1 = [change.2]
  /-- Made again, the changes leave the document as it is, in the order of its fields too. -/
  again : applyChanges (applyChanges document changes) changes = applyChanges document changes
  /-- Changes that are not in each other's way may be made in any order, up to that of fields. -/
  any_order : changes.Pairwise ChangesApart → ∀ others : Fields Bson, others.Perm changes →
    Reordered (applyChanges document others) (applyChanges document changes)
  /-- Two lists of such changes may be made one after the other in either order: the documents are
  the same up to the order of fields, and in both of them every change is read back. -/
  neither_lost : changes.Pairwise ChangesApart → ∀ first second, changes = first ++ second →
    Reordered (applyChanges (applyChanges document second) first)
      (applyChanges (applyChanges document first) second) ∧
    ∀ change ∈ changes,
      (applyChanges (applyChanges document first) second).resolve change.1 = [change.2] ∧
      (applyChanges (applyChanges document second) first).resolve change.1 = [change.2]

/-- **Changes of any paths and values** keep the laws, whatever the document is, and even if paths
are repeated. -/
theorem changeLaws (document : Document) (changes : Fields Bson) :
    ChangeLaws document changes where
  read_back := by
    rintro earlier change later rfl hlater
    exact resolve_applyChanges_of_last (fun other hother => (hlater other hother).symm) document
  again := applyChanges_applyChanges document changes
  any_order hapart _ hperm := reordered_applyChanges hperm hapart document
  neither_lost := by
    rintro hapart first second rfl
    -- Both orders are permutations of one list of changes, which are apart in either order.
    have hperm : (second ++ first).Perm (first ++ second) := List.perm_append_comm
    have hback : (second ++ first).Pairwise ChangesApart :=
      (hperm.pairwise_iff ChangesApart.symm).mpr hapart
    rw [← applyChanges_append, ← applyChanges_append]
    refine ⟨reordered_applyChanges hperm hapart document, fun change hmem => ⟨?_, ?_⟩⟩
    · exact resolve_applyChanges_of_pairwise hapart hmem document
    · exact resolve_applyChanges_of_pairwise hback (hperm.symm.subset hmem) document

end Document

end DocumentApi
