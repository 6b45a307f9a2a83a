import DocumentApi.Document.Order
import DocumentApi.Proofs.Bson.Order
import Mathlib.Tactic.ByContra

/-!
# The order of sorts

A sort needs an order that is handed on: what comes no later than a second item, which comes no
later than a third one, comes no later than the third one. Turning two values or two documents
around always turns their order around. But NaN ties with every number, so that it stands between a
greater number and a smaller one.

* `Comparable.breaks_iff` — this is the only way in which the order of values is not handed on;
* `Document.transCmp_compareBy` — documents are ordered under any list of keys where the values that
  they are sorted by are;
* `SortOrder.isPreorder_iff` — so values and documents are ordered exactly if there is no NaN, or no
  two numbers for it to stand between. In general they are not (`SortOrder.not_isPreorder`).
-/

namespace DocumentApi

open Std

/-! ### Three values -/

namespace Binary64

theorem compare?_eq_none_iff {a b : Binary64} : a.compare? b = none ↔ a = nan ∨ b = nan := by
  -- A comparison fails if one of the ranks is missing, and only NaN has none.
  unfold compare?
  cases a <;> cases b <;> simp [rank?]

/-- Numbers are ordered by their ranks, so that a number that is not NaN hands their order on. -/
theorem isLE_compare?_trans {a b c : Binary64} (hnan : b ≠ nan)
    (hab : ((a.compare? b).getD .eq).isLE) (hbc : ((b.compare? c).getD .eq).isLE) :
    ((a.compare? c).getD .eq).isLE := by
  obtain ⟨y, hy⟩ : ∃ y, b.rank? = some y := by
    cases b with
    | nan => exact absurd rfl hnan
    | _ => exact ⟨_, rfl⟩
  -- A rank that is missing on either side is a tie.
  unfold compare? at *
  rw [hy] at hab hbc
  cases hx : a.rank? with
  | none => rfl
  | some x =>
    cases hz : c.rank? with
    | none => rfl
    | some z =>
      rw [hx] at hab
      rw [hz] at hbc
      exact TransOrd.isLE_trans (a := x) (b := y) (c := z) hab hbc

end Binary64

namespace Comparable

instance (value : Comparable) : Decidable (value = .number .nan) :=
  match value with
  | .number x => decidable_of_iff (x = .nan) (by rw [number.injEq])
  | .null | .string _ | .map _ | .array _ | .objectId _ | .bool _ | .date _ => .isFalse nofun

theorem isLE_compare_iff {a b : Comparable} :
    (compare a b).isLE ↔
      a.typeRank < b.typeRank ∨
        a.typeRank = b.typeRank ∧ ((valueOrder? a b).getD .eq).isLE := by
  rw [compare, Ordering.isLE_then_iff_or, Nat.compare_eq_lt, Nat.compare_eq_eq]

/-- Two values of one type. -/
inductive SameType : Comparable → Comparable → Prop
  | null : SameType .null .null
  | number (x y : Binary64) : SameType (.number x) (.number y)
  | string (x y : String) : SameType (.string x) (.string y)
  | map (x y : List (String × Comparable)) : SameType (.map x) (.map y)
  | array (x y : List Comparable) : SameType (.array x) (.array y)
  | objectId (x y : ObjectId) : SameType (.objectId x) (.objectId y)
  | bool (x y : Bool) : SameType (.bool x) (.bool y)
  | date (x y : Int64) : SameType (.date x) (.date y)

theorem SameType.of_typeRank_eq {a b : Comparable} (h : a.typeRank = b.typeRank) :
    -- Every type has a rank of its own.
    SameType a b := by
  cases a <;> cases b <;> first | constructor | cases h

/-- Among values of one type, every one but NaN hands the order on. -/
theorem isLE_valueOrder?_trans {a b c : Comparable} (hnan : b ≠ .number .nan)
    (htypes : SameType a b) (htypes' : SameType b c)
    (hab : ((valueOrder? a b).getD .eq).isLE) (hbc : ((valueOrder? b c).getD .eq).isLE) :
    ((valueOrder? a c).getD .eq).isLE := by
  -- Each type that has an order takes it from one that is total.
  cases htypes with
  | number x y =>
    cases htypes' with
    | number _ z => exact Binary64.isLE_compare?_trans (fun h => hnan (h ▸ rfl)) hab hbc
  | string x y =>
    cases htypes' with
    | string _ z => exact TransOrd.isLE_trans (a := x) (b := y) (c := z) hab hbc
  | objectId x y =>
    cases htypes' with
    | objectId _ z => exact TransOrd.isLE_trans (a := x.val) (b := y.val) (c := z.val) hab hbc
  | bool x y =>
    cases htypes' with
    | bool _ z => exact TransOrd.isLE_trans (a := x) (b := y) (c := z) hab hbc
  | date x y =>
    cases htypes' with
    | date _ z => exact TransOrd.isLE_trans (a := x.toInt) (b := y.toInt) (c := z.toInt) hab hbc
  | _ =>
    -- Nulls are equal, and documents and arrays have no order.
    cases htypes'
    rfl

/-- **Where the order breaks.** The order of values is not handed on exactly by NaN between a
greater number and a smaller one. -/
theorem breaks_iff {a b c : Comparable} :
    ((compare a b).isLE ∧ (compare b c).isLE ∧ ¬ (compare a c).isLE) ↔
      b = .number .nan ∧
        ∃ x y, a = .number x ∧ c = .number y ∧ x.compare? y = some .gt := by
  constructor
  · rintro ⟨hab, hbc, hac⟩
    rw [isLE_compare_iff] at hab hbc hac
    -- A step from one type to another would also be one from the first value to the last.
    obtain ⟨htypes, hvalues⟩ := hab.resolve_left fun h => hac <| Or.inl <| by omega
    obtain ⟨htypes', hvalues'⟩ := hbc.resolve_left fun h => hac <| Or.inl <| by omega
    have hvalue : ¬ ((valueOrder? a c).getD .eq).isLE :=
      fun h => hac (Or.inr ⟨htypes.trans htypes', h⟩)
    have hfirst : SameType a b := .of_typeRank_eq htypes
    have hsecond : SameType b c := .of_typeRank_eq htypes'
    obtain rfl : b = .number .nan := by
      by_contra hnan
      exact hvalue (isLE_valueOrder?_trans hnan hfirst hsecond hvalues hvalues')
    -- So all three are numbers, and those around NaN are not in order.
    cases hfirst with
    | number x =>
      cases hsecond with
      | number _ y =>
        refine ⟨rfl, x, y, rfl, rfl, ?_⟩
        change ¬ ((x.compare? y).getD .eq).isLE at hvalue
        cases hxy : x.compare? y with
        | none => exact absurd rfl (hxy ▸ hvalue)
        | some order =>
          rw [hxy, Option.getD_some, Ordering.isLE_iff_ne_gt, not_not] at hvalue
          rw [hvalue]
  · rintro ⟨rfl, x, y, rfl, rfl, hxy⟩
    have hleft : x.compare? .nan = none := Binary64.compare?_eq_none_iff.mpr (Or.inr rfl)
    have hright : Binary64.nan.compare? y = none := Binary64.compare?_eq_none_iff.mpr (Or.inl rfl)
    simp [compare, valueOrder?, typeRank, hleft, hright, hxy]

end Comparable

/-! ### Documents under keys -/

namespace Comparable

variable {α : Type} {f : α → Comparable}

instance orientedCmp_compareToward (direction : SortDirection) :
    OrientedCmp fun a b => compareToward direction (f a) (f b) where
  -- Both directions are turned around by the law of the values.
  eq_swap {a b} := by
    cases direction with
    | ascending => exact (compare_swap (f b) (f a)).symm
    | descending => exact (compare_swap (f a) (f b)).symm

/-- An order of values is one in both directions. -/
theorem transCmp_compareToward (direction : SortDirection)
    (h : TransCmp fun a b => compare (f a) (f b)) :
    TransCmp fun a b => compareToward direction (f a) (f b) := by
  -- Downwards the order is the opposite one.
  cases direction with
  | ascending => exact h
  | descending => exact h.opposite

end Comparable

namespace Document

/-- Turning two documents around turns their order around. -/
instance orientedCmp_compareBy (keys : List SortKey) : OrientedCmp (compareBy keys) := by
  -- Keys are compared one after another, the later ones where the earlier ones tie.
  induction keys with
  | nil => exact ⟨rfl⟩
  | cons key rest ih =>
    exact inferInstanceAs <| OrientedCmp <| compareLex
      (fun a b => Comparable.compareToward key.direction (a.sortValue key) (b.sortValue key))
      (compareBy rest)

/-- **Documents are ordered** under a list of keys if under each one the values are, by which they
are sorted. -/
theorem transCmp_compareBy {α : Type} (f : α → Document) {keys : List SortKey}
    (h : ∀ key ∈ keys,
      TransCmp fun a b => Comparable.compare ((f a).sortValue key) ((f b).sortValue key)) :
    TransCmp fun a b => compareBy keys (f a) (f b) := by
  induction keys with
  | nil => exact { eq_swap := rfl, isLE_trans := fun _ _ => rfl }
  | cons key rest ih =>
    have hfirst := Comparable.transCmp_compareToward key.direction (h key List.mem_cons_self)
    have hrest := ih fun other hother => h other (List.mem_cons_of_mem key hother)
    exact inferInstanceAs <| TransCmp <| compareLex
      (fun a b =>
        Comparable.compareToward key.direction ((f a).sortValue key) ((f b).sortValue key))
      fun a b => compareBy rest (f a) (f b)

end Document

/-! ### What may be stored -/

namespace SortOrder

/-- The order of stored values among which sorts see only those that are admitted. -/
def compareValues (admits : Comparable → Prop) (a b : {value : Bson // admits value.comparable}) :
    Ordering :=
  Comparable.compare a.val.comparable b.val.comparable

/-- The order under a list of keys of documents of which only values that are admitted are sorted
by. -/
def compareDocuments (admits : Comparable → Prop) (keys : List SortKey)
    (a b : {document : Document // ∀ key ∈ keys, admits (document.sortValue key)}) : Ordering :=
  Document.compareBy keys a.val b.val

/-- Whether values, and documents under every list of keys, are ordered as long as sorts see only
values that are admitted. -/
structure IsPreorder (admits : Comparable → Prop) : Prop where
  values : TransCmp (compareValues admits)
  documents : ∀ keys, TransCmp (compareDocuments admits keys)

variable {admits : Comparable → Prop}

variable (admits) in
/-- Values that are admitted are ordered if there is nothing that NaN can stand between. -/
theorem transCmp_of_admits {α : Type} {f : α → Comparable} (hadmits : ∀ a, admits (f a))
    (h : admits (.number .nan) →
      ∀ x y, admits (.number x) → admits (.number y) → x.compare? y ≠ some .gt) :
    TransCmp fun a b => Comparable.compare (f a) (f b) where
  eq_swap {a b} := (Comparable.compare_swap (f b) (f a)).symm
  isLE_trans {a b c} hab hbc := by
    -- A break would be NaN between a greater and a smaller number, all of which are admitted.
    by_contra hac
    obtain ⟨hb, x, y, ha, hc, hxy⟩ := Comparable.breaks_iff.mp ⟨hab, hbc, hac⟩
    exact h (hb ▸ hadmits b) x y (ha ▸ hadmits a) (hc ▸ hadmits c) hxy

/-- **The order of sorts.** Turning two values, or two documents under any keys, around turns their
order around. Values, and documents under all keys, are ordered as long as sorts see only values that
are admitted if and only if NaN is not among these, or no two different numbers are. -/
theorem isPreorder_iff (admits : Comparable → Prop) :
    (OrientedCmp fun a b : Bson => Comparable.compare a.comparable b.comparable) ∧
      (∀ keys, OrientedCmp (Document.compareBy keys)) ∧
      (IsPreorder admits ↔
        (admits (.number .nan) →
          ∀ x y, admits (.number x) → admits (.number y) → x.compare? y ≠ some .gt)) := by
  refine ⟨⟨fun {a b} => (Comparable.compare_swap b.comparable a.comparable).symm⟩,
    fun keys => inferInstance, fun h hnan x y hx hy hxy => ?_, fun h => ⟨?_, ?_⟩⟩
  · -- The three numbers are stored as doubles.
    have hbreaks := Comparable.breaks_iff.mpr ⟨rfl, x, y, rfl, rfl, hxy⟩
    exact hbreaks.2.2 <| h.values.isLE_trans (a := ⟨.double x, hx⟩) (b := ⟨.double .nan, hnan⟩)
      (c := ⟨.double y, hy⟩) hbreaks.1 hbreaks.2.1
  · exact transCmp_of_admits admits (fun value => value.property) h
  · intro keys
    refine Document.transCmp_compareBy Subtype.val fun key hkey => ?_
    exact transCmp_of_admits admits (fun document => document.property key hkey) h

/-- **Values are not ordered in general.** NaN comes no earlier than 1 and no later than 0. -/
theorem not_isPreorder :
    ¬ ((TransCmp fun a b : Bson => Comparable.compare a.comparable b.comparable) ∧
      ∀ keys, TransCmp (Document.compareBy keys)) := by
  -- The comparisons of 1 with NaN and of NaN with 0 are evaluated.
  rintro ⟨hvalues, -⟩
  have hle := hvalues.isLE_trans (a := .int32 1) (b := .double .nan) (c := .int32 0)
  revert hle
  decide +kernel

end SortOrder

end DocumentApi
