import DocumentApi.Document.Order
import DocumentApi.FilterDocument
import DocumentApi.Proofs.Bson.Order
import DocumentApi.Proofs.Document.Path
import DocumentApi.Proofs.Fields.Pairs

/-!
# Fields that a sort names again

A sort specification may name a field more than once. Documents are compared by its keys from left
to right, so the first direction of a field counts: where it leaves a tie, the others do so too. The
sort document gives every name one entry, which keeps its first place and takes its last direction.

* `Document.compareBy_eq` — the order of two documents is that under the first field in which they
  differ, in the first direction that is named for it;
* `SortSpec.compareByEntries_eq` — the entries of the sort document compare in the same way, but in
  the last direction;
* `SortSpec.sortsAlike_iff` — so both sort alike exactly if the first and the last direction are the
  same for every field. `a,-a` is sorted differently (`SortSpec.not_sortsAlike`).
-/

namespace DocumentApi

/-! ### Reading a sort document -/

/-- The direction that the value of an entry of a sort document stands for. -/
def SortDirection.ofBson? : Bson → Option SortDirection
  | .int32 n => if n = 1 then some .ascending else if n = -1 then some .descending else none
  | _ => none

@[simp] theorem SortDirection.ofBson?_toBson (direction : SortDirection) :
    ofBson? direction.toBson = some direction := by
  cases direction <;> rfl

/-- The keys that the entries of a sort document stand for, in their order. -/
def SortKey.ofDocument (sort : Document) : List SortKey :=
  sort.filterMap fun entry =>
    (SortDirection.ofBson? entry.2).map fun direction => ⟨entry.1, direction⟩

/-- The order of two documents by the entries of a sort document, from first to last. -/
def Document.compareByEntries (sort a b : Document) : Ordering :=
  compareBy (SortKey.ofDocument sort) a b

/-! ### The field that decides -/

/-- The fields of keys with the directions in which they are named, in order. -/
def SortKey.directions (keys : List SortKey) : Fields SortDirection :=
  keys.map fun key => (key.field, key.direction)

namespace Document

/-- The value under a field by which a document is sorted. -/
def sortValueAt (document : Document) (field : String) : Comparable :=
  document.sortValue ⟨field, .ascending⟩

/-- Whether two documents differ in what they are sorted by under a field. -/
def differ (a b : Document) (field : String) : Bool :=
  Comparable.compare (a.sortValueAt field) (b.sortValueAt field) != .eq

/-- The order of two documents under a field in a direction. -/
def compareAt (a b : Document) (field : String) (direction : SortDirection) : Ordering :=
  Comparable.compareToward direction (a.sortValueAt field) (b.sortValueAt field)

theorem compareAt_eq_eq {a b : Document} {field : String} {direction : SortDirection} :
    compareAt a b field direction = .eq ↔ differ a b field = false := by
  unfold compareAt differ
  rw [Comparable.compareToward_eq_eq, bne_eq_false_iff_eq]

/-- **The field that decides** is the first one in which the documents differ, and its direction the
first one that is named for it. -/
theorem compareBy_eq (keys : List SortKey) (a b : Document) :
    compareBy keys a b =
      (((Fields.keys (SortKey.directions keys)).find? (differ a b)).bind fun field =>
        (Fields.get? (SortKey.directions keys) field).map (compareAt a b field)).getD .eq := by
  -- It is the first key, not only the first field, for which the documents do not tie.
  have hfirst : compareBy keys a b
      = (((SortKey.directions keys).find? fun pair => differ a b pair.1).map fun pair =>
          compareAt a b pair.1 pair.2).getD .eq := by
    -- The induction is on the keys, of which the first one that does not tie ends the search.
    induction keys with
    | nil => rfl
    | cons key rest ih =>
      have hcons : compareBy (key :: rest) a b
          = (compareAt a b key.field key.direction).then (compareBy rest a b) := rfl
      have hpairs : SortKey.directions (key :: rest)
          = (key.field, key.direction) :: SortKey.directions rest := rfl
      rw [hcons, hpairs, List.find?_cons]
      cases hdiffer : differ a b key.field with
      | true =>
        -- The documents do not tie under this key, so that it decides.
        have hne : compareAt a b key.field key.direction ≠ .eq := by
          rw [Ne, compareAt_eq_eq, hdiffer]
          exact Bool.noConfusion
        simp only [Option.map_some, Option.getD_some]
        cases hcompare : compareAt a b key.field key.direction with
        | eq => exact absurd hcompare hne
        | _ => rfl
      | false =>
        -- They tie under it, and the other keys decide.
        rw [compareAt_eq_eq.mpr hdiffer, Ordering.eq_then, ih]
  -- The first pair with such a field is its field with the first direction in the list.
  rw [hfirst, Fields.find?_fst, Option.map_bind]
  congr 2
  funext field
  exact Option.map_map _ _ _

end Document

/-! ### The entries of the sort document -/

/-- What comes first among items with a property is the same after repetitions are removed. -/
theorem find?_eraseDups {α : Type} [BEq α] [LawfulBEq α] (p : α → Bool) (items : List α) :
    items.eraseDups.find? p = items.find? p := by
  -- Removing repetitions filters the rest first, so the recursion is on the length.
  match items with
  | [] => rfl
  | item :: rest =>
    rw [List.eraseDups_cons]
    -- The first item stays in both lists, so only what comes behind it is in question.
    by_cases hp : p item = true
    · rw [List.find?_cons_of_pos hp, List.find?_cons_of_pos hp]
    · rw [List.find?_cons_of_neg hp, List.find?_cons_of_neg hp,
        find?_eraseDups p (rest.filter fun other => !other == item), List.find?_filter]
      -- An item with the property is not the first one.
      congr 1
      funext other
      by_cases heq : other = item
      · simp [heq, hp]
      · simp [heq]
termination_by items.length
decreasing_by exact Nat.lt_succ_of_le (List.length_filter_le _ _)

namespace SortSpec

/-- The first direction that is named for a field. -/
def firstDirection? (spec : SortSpec) (field : String) : Option SortDirection :=
  Fields.get? (SortKey.directions spec.keys) field

/-- The last direction that is named for a field. -/
def lastDirection? (spec : SortSpec) (field : String) : Option SortDirection :=
  Fields.get? (SortKey.directions spec.keys).reverse field

/-- Reading the sort document gives the directions of the keys, inserted one after another. -/
theorem directions_ofDocument (spec : SortSpec) :
    SortKey.directions (SortKey.ofDocument (spec.toDocument?.getD []))
      = Fields.ofPairs (SortKey.directions spec.keys) := by
  -- Both are made by inserting pairs; only the values differ.
  have hdocument : spec.toDocument?.getD []
      = (Fields.ofPairs (SortKey.directions spec.keys)).map fun pair => (pair.1, pair.2.toBson) := by
    rw [← Fields.ofPairs_map]
    unfold toDocument? SortKey.directions
    rw [List.map_map]
    cases spec.keys <;> rfl
  -- Every value of a sort document is one of the two numbers, and is read back.
  have hread : ∀ directions : Fields SortDirection,
      SortKey.directions
          (SortKey.ofDocument (directions.map fun pair => (pair.1, pair.2.toBson)))
        = directions := by
    intro directions
    unfold SortKey.directions SortKey.ofDocument
    rw [List.filterMap_map, List.map_filterMap]
    simp
  rw [hdocument, hread]

/-- **The keys** compare under the first field in which the documents differ, in the first direction
that is named for it. -/
theorem compareBy_keys_eq (spec : SortSpec) (a b : Document) :
    Document.compareBy spec.keys a b =
      (((Fields.keys (SortKey.directions spec.keys)).find? (Document.differ a b)).bind fun field =>
        (spec.firstDirection? field).map (Document.compareAt a b field)).getD .eq :=
  Document.compareBy_eq spec.keys a b

/-- **The entries of the sort document** compare under the same field as the keys, but in the last
direction that is named for it. -/
theorem compareByEntries_eq (spec : SortSpec) (a b : Document) :
    Document.compareByEntries (spec.toDocument?.getD []) a b =
      (((Fields.keys (SortKey.directions spec.keys)).find? (Document.differ a b)).bind fun field =>
        (spec.lastDirection? field).map (Document.compareAt a b field)).getD .eq := by
  unfold Document.compareByEntries
  -- Inserting keeps the places of the first directions and the values of the last ones.
  rw [Document.compareBy_eq, directions_ofDocument, Fields.keys_ofPairs, find?_eraseDups]
  congr 2
  funext field
  rw [Fields.get?_ofPairs]
  rfl

end SortSpec

/-! ### Documents that differ under one path only -/

theorem segments_injective : Function.Injective segments := by
  intro path other h
  -- The pieces, joined again, are the path.
  have hpieces := List.map_injective_iff.mpr (fun a b => String.ofList_inj.mp) h
  have hjoin := congrArg (Text.join '.') hpieces
  rw [Text.join_pieces, Text.join_pieces] at hjoin
  exact String.toList_inj.mp hjoin

namespace Bson

/-- A value with documents of one field around it, so that the names lead to it. -/
def nest (names : List String) (value : Bson) : Bson :=
  names.foldr (fun name below => .document [(name, below)]) value

/-- The names lead to the value. -/
theorem follow_nest (names : List String) (value : Bson) :
    -- Each name takes one document off.
    follow [nest names value] names = [value] := by
  induction names with
  | nil => rfl
  | cons name rest ih =>
    have hstep : step name (nest (name :: rest) value) = [nest rest value] := by
      change (Fields.get? [(name, nest rest value)] name).toList = _
      rw [Fields.get?_cons, if_pos rfl]
      rfl
    rw [follow, List.foldl_cons, List.flatMap_singleton, hstep]
    exact ih

/-- Other names lead to nothing, or to one of the documents around the value, whatever flag the
value is. -/
theorem follow_nest_of_ne {names others : List String} (h : others ≠ names) :
    (∀ flag : Bool, follow [nest names (.bool flag)] others = []) ∨
      ∀ flag : Bool, ∃ fields, follow [nest names (.bool flag)] others = [.document fields] := by
  -- The induction is on the names around the value; the others follow them as long as they agree.
  induction names generalizing others with
  | nil =>
    -- The flag itself has no fields.
    obtain ⟨other, rest, rfl⟩ := List.exists_cons_of_ne_nil h
    exact Or.inl fun flag => follow_nil rest
  | cons name names ih =>
    cases others with
    -- The names have ended too early, at one of the documents.
    | nil => exact Or.inr fun flag => ⟨_, rfl⟩
    | cons other rest =>
      -- The same name takes both one step further, and another one finds no field.
      by_cases hother : other = name
      · subst hother
        have hrest : rest ≠ names := fun he => h (he ▸ rfl)
        have hstep : ∀ flag : Bool, follow [nest (other :: names) (.bool flag)] (other :: rest)
            = follow [nest names (.bool flag)] rest := by
          intro flag
          change follow ([(nest (other :: names) (.bool flag))].flatMap (step other)) rest = _
          rw [List.flatMap_singleton]
          change follow (Fields.get? [(other, nest names (.bool flag))] other).toList rest = _
          rw [Fields.get?_cons, if_pos rfl]
          rfl
        simp only [hstep]
        exact ih hrest
      · refine Or.inl fun flag => ?_
        change follow ([(nest (name :: names) (.bool flag))].flatMap (step other)) rest = _
        rw [List.flatMap_singleton]
        change follow (Fields.get? [(name, nest names (.bool flag))] other).toList rest = _
        rw [Fields.get?_cons, if_neg (Ne.symm hother)]
        exact follow_nil rest

end Bson

namespace Document

/-- A document with nothing but a flag at the end of a path. -/
def flagAt (path : String) (flag : Bool) : Document :=
  match segments path with
  | [] => []
  | first :: rest => [(first, Bson.nest rest (.bool flag))]

-- A path has a first segment, under which the document has its only field.
theorem resolve_flagAt (path : String) (flag : Bool) :
    (flagAt path flag).resolve path = [.bool flag] := by
  obtain ⟨first, rest, hsegments⟩ := List.exists_cons_of_ne_nil (segments_ne_nil path)
  unfold flagAt resolve
  simp only [hsegments, Fields.get?_cons, if_true]
  exact Bson.follow_nest rest (.bool flag)

/-- Other paths reach nothing, or a document. -/
theorem resolve_flagAt_of_ne {path other : String} (h : other ≠ path) :
    (∀ flag, (flagAt path flag).resolve other = []) ∨
      ∀ flag, ∃ fields, (flagAt path flag).resolve other = [.document fields] := by
  obtain ⟨first, rest, hsegments⟩ := List.exists_cons_of_ne_nil (segments_ne_nil path)
  obtain ⟨first', rest', hsegments'⟩ := List.exists_cons_of_ne_nil (segments_ne_nil other)
  unfold flagAt resolve
  simp only [hsegments, hsegments', Fields.get?_cons, Fields.get?_nil]
  -- The paths may part at their first segments, or behind them.
  by_cases hfirst : first = first'
  · subst hfirst
    have hrest : rest' ≠ rest := by
      rintro rfl
      exact h (segments_injective (hsegments'.trans hsegments.symm))
    -- Behind the same first segment, the rest of the two paths differ.
    simp only [if_true]
    exact Bson.follow_nest_of_ne hrest
  · simp only [if_neg hfirst]
    exact Or.inl fun _ => Bson.follow_nil rest'

/-- Two documents with different flags at the end of a path differ under this path only. -/
theorem differ_flagAt (path other : String) :
    differ (flagAt path false) (flagAt path true) other = true ↔ other = path := by
  unfold differ sortValueAt sortValue
  -- Under the path itself the flags are compared, and false comes before true.
  by_cases h : other = path
  · subst h
    simp only [resolve_flagAt]
    exact iff_of_true rfl trivial
  · -- Under another path both documents have nothing, or both have a document, and these tie.
    refine ⟨fun hdiffer => ?_, fun he => absurd he h⟩
    rcases resolve_flagAt_of_ne h with hnone | hdocument
    · simp only [hnone] at hdiffer
      cases hdiffer
    · obtain ⟨fields, hfalse⟩ := hdocument false
      obtain ⟨fields', htrue⟩ := hdocument true
      simp only [hfalse, htrue] at hdiffer
      cases hdiffer

/-- They are sorted by it in any direction, and every direction shows. -/
theorem compareAt_flagAt_injective (path : String) :
    Function.Injective (compareAt (flagAt path false) (flagAt path true) path) := by
  -- False comes before true, and the direction says which way round.
  have hascending : compareAt (flagAt path false) (flagAt path true) path .ascending = .lt := by
    unfold compareAt sortValueAt sortValue
    simp only [resolve_flagAt]
    rfl
  have hdescending : compareAt (flagAt path false) (flagAt path true) path .descending = .gt := by
    unfold compareAt sortValueAt sortValue
    simp only [resolve_flagAt]
    rfl
  -- So two directions that give the same order are the same.
  intro direction other h
  cases direction <;> cases other <;> simp [hascending, hdescending] at h ⊢

/-- Among names, the path is the first under which they differ. -/
theorem find?_differ_flagAt {path : String} {names : List String} (h : path ∈ names) :
    names.find? (differ (flagAt path false) (flagAt path true)) = some path := by
  -- The documents differ under the path and under no other name.
  have hdiffer : ∀ name, differ (flagAt path false) (flagAt path true) name = (name == path) := by
    intro name
    rw [Bool.eq_iff_iff, differ_flagAt, beq_iff_eq]
  have hsome : (names.find? (differ (flagAt path false) (flagAt path true))).isSome := by
    rw [List.find?_isSome]
    exact ⟨path, h, (differ_flagAt path path).mpr rfl⟩
  obtain ⟨name, hname⟩ := Option.isSome_iff_exists.mp hsome
  rw [hname, (differ_flagAt path name).mp (List.find?_some hname)]

end Document

namespace SortSpec

/-! ### Sorting alike -/

/-- Whether a sort specification and its sort document sort alike: they give any two documents the
same order, and there is no sort document exactly if there is nothing to sort by. -/
structure SortsAlike (spec : SortSpec) : Prop where
  same_order : ∀ a b, Document.compareByEntries (spec.toDocument?.getD []) a b
    = Document.compareBy spec.keys a b
  eq_none_iff : spec.toDocument? = none ↔ spec.keys = []

theorem lastDirection?_eq_none_iff {spec : SortSpec} {field : String} :
    spec.lastDirection? field = none ↔ spec.firstDirection? field = none := by
  -- A field is named in a list exactly if it is named in the list turned round.
  unfold lastDirection? firstDirection?
  rw [Fields.get?_eq_none_iff, Fields.get?_eq_none_iff]
  unfold Fields.keys
  rw [List.map_reverse, List.mem_reverse]

theorem toDocument?_eq_none_iff (spec : SortSpec) : spec.toDocument? = none ↔ spec.keys = [] := by
  unfold toDocument?
  cases spec.keys <;> simp

/-- **Sorting alike.** The sort parameter of a request and its sort document sort alike if and only
if no field is named in one direction first and in the other one last. -/
theorem sortsAlike_iff (raw : String) :
    (parse raw).SortsAlike ↔
      ∀ field, (parse raw).firstDirection? field = (parse raw).lastDirection? field := by
  generalize parse raw = spec
  constructor
  · -- The directions of one field at a time: it is named in neither list or in both.
    intro h field
    cases hfirst : spec.firstDirection? field with
    | none => rw [lastDirection?_eq_none_iff.mpr hfirst]
    | some first =>
      have hlast : spec.lastDirection? field ≠ none := by
        rw [Ne, lastDirection?_eq_none_iff, hfirst]
        exact Option.some_ne_none first
      obtain ⟨last, hlast⟩ := Option.ne_none_iff_exists'.mp hlast
      -- Two documents that differ in this field only are sorted by it, in both directions alike.
      have hfield : field ∈ Fields.keys (SortKey.directions spec.keys) :=
        Fields.mem_keys_of_mem (Fields.mem_of_get?_eq_some hfirst)
      have horder := h.same_order (Document.flagAt field false) (Document.flagAt field true)
      rw [compareByEntries_eq, compareBy_keys_eq, Document.find?_differ_flagAt hfield,
        Option.bind_some, Option.bind_some, hfirst, hlast] at horder
      rw [hlast, Document.compareAt_flagAt_injective field horder]
  · -- With the same directions both orders are the same expression.
    intro h
    refine ⟨fun a b => ?_, spec.toDocument?_eq_none_iff⟩
    rw [compareByEntries_eq, compareBy_keys_eq]
    simp only [h]

/-- **Not every sort parameter is sorted alike.** By the keys of `a,-a` the smaller value comes
first, and by the sort document the greater one. -/
theorem not_sortsAlike : ¬ ∀ raw, (parse raw).SortsAlike := by
  intro h
  have horder := (h "a,-a").same_order [("a", .int32 1)] [("a", .int32 2)]
  exact absurd horder (by decide +kernel)

end SortSpec

end DocumentApi
