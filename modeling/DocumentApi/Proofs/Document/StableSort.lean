import DocumentApi.Document.Sorting
import DocumentApi.Proofs.Document.SortOrder

/-!
# Sorted stably

A list is sorted stably if its items are those that were there before, if none comes strictly before
an earlier one, and if items that tie with each other stand in the order in which they stood before.

* `stablySorted_sortStable` — sorting by an order that is handed on sorts stably;
* `Document.stablySorted_sortBy` — so documents are sorted stably under keys that put them in order,
  as all keys do that reach no NaN in them (`Document.ordered_of_ne_nan`);
* `Sorter.arrange_eq` — such documents are sorted in one way by all sorters.
-/

namespace DocumentApi

open Std

/-- Whether a list is another one sorted by an order, where items that tie keep their places among
each other. -/
structure StablySorted {α : Type} (cmp : α → α → Ordering) (before after : List α) : Prop where
  perm : after.Perm before
  sorted : after.Pairwise fun earlier later => cmp later earlier ≠ .lt
  stable : ∀ item ∈ before,
    after.filter (fun other => cmp item other == .eq)
      = before.filter fun other => cmp item other == .eq

section Insertion

variable {α : Type} {cmp : α → α → Ordering}

/-- Whether no item of a list comes strictly before a later one. -/
def Descending (cmp : α → α → Ordering) (items : List α) : Prop :=
  items.Pairwise fun earlier later => cmp earlier later ≠ .lt

variable [TransCmp cmp]

/-- An insertion keeps a list sorted downwards. -/
theorem Descending.insertDown {items : List α} (h : Descending cmp items) (x : α) :
    Descending cmp (insertDown (fun a b => cmp a b == .lt) x items) := by
  induction items with
  | nil => exact List.pairwise_singleton _ x
  | cons y rest ih =>
    -- The inserted item goes behind those that come after it.
    obtain ⟨hfirst, hrest⟩ := List.pairwise_cons.mp h
    rw [DocumentApi.insertDown]
    split
    · next hlt =>
      rw [beq_iff_eq] at hlt
      refine List.pairwise_cons.mpr ⟨fun z hz => ?_, ih hrest⟩
      -- The first item stays in front of the inserted one and of the others.
      rcases List.mem_cons.mp ((insertDown_perm _ x rest).mem_iff.mp hz) with rfl | hz
      · rw [OrientedCmp.gt_of_lt hlt]
        decide
      · exact hfirst z hz
    · next hge =>
      rw [beq_iff_eq, ← Ordering.isGE_iff_ne_lt] at hge
      refine List.pairwise_cons.mpr ⟨fun z hz => ?_, h⟩
      -- What the first item does not come before, the inserted one does not either.
      refine Ordering.isGE_iff_ne_lt.mp ?_
      rcases List.mem_cons.mp hz with rfl | hz
      · exact hge
      · exact TransCmp.isGE_trans hge (Ordering.isGE_iff_ne_lt.mpr (hfirst z hz))

/-- Among items that tie with a given one, an item is inserted in front: those that it is inserted
behind come after it. -/
theorem filter_insertDown (item x : α) (items : List α) :
    (insertDown (fun a b => cmp a b == .lt) x items).filter (fun other => cmp item other == .eq)
      = (x :: items).filter fun other => cmp item other == .eq := by
  induction items with
  | nil => rfl
  | cons y rest ih =>
    rw [insertDown]
    split
    · next hlt =>
      rw [beq_iff_eq] at hlt
      rw [List.filter_cons, ih]
      by_cases hy : cmp item y = .eq
      · -- The item ties with the first one, and so not with the inserted one.
        have hx : cmp item x ≠ .eq := by
          rw [TransCmp.congr_left hy, OrientedCmp.gt_of_lt hlt]
          decide
        -- An item that does not tie with the first one is not concerned by it.
        simp [hx, hy]
      · simp [List.filter_cons, hy]
    · rfl

theorem descending_foldl_insertDown {sorted : List α} (h : Descending cmp sorted) (items : List α) :
    Descending cmp
      (items.foldl (fun sorted x => insertDown (fun a b => cmp a b == .lt) x sorted) sorted) := by
  induction items generalizing sorted with
  | nil => exact h
  | cons x rest ih => exact ih (h.insertDown x)

theorem filter_foldl_insertDown (item : α) (sorted items : List α) :
    (items.foldl (fun sorted x => insertDown (fun a b => cmp a b == .lt) x sorted) sorted).filter
        (fun other => cmp item other == .eq)
      = (items.reverse ++ sorted).filter fun other => cmp item other == .eq := by
  -- Items come in one after another, each in front of those that it ties with.
  induction items generalizing sorted with
  | nil => rfl
  | cons x rest ih =>
    rw [List.foldl_cons, ih, List.filter_append, filter_insertDown, ← List.filter_append,
      List.reverse_cons, List.append_assoc]
    rfl

variable (cmp) in
/-- **Sorting is stable** for an order that is handed on. -/
theorem stablySorted_sortStable (items : List α) :
    StablySorted cmp items (sortStable (fun a b => cmp a b == .lt) items) where
  perm := sortStable_perm _ items
  sorted := List.pairwise_reverse.mpr (descending_foldl_insertDown List.Pairwise.nil items)
  stable item _ := by
    rw [sortStable, List.filter_reverse, filter_foldl_insertDown, List.append_nil,
      List.filter_reverse, List.reverse_reverse]

end Insertion

/-! ### Sorting in another type -/

section Map

variable {α β : Type} (f : α → β)

theorem insertDown_map (less : β → β → Bool) (x : α) (items : List α) :
    insertDown less (f x) (items.map f)
      = (insertDown (fun a b => less (f a) (f b)) x items).map f := by
  induction items with
  | nil => rfl
  | cons y rest ih =>
    rw [List.map_cons, insertDown, insertDown, ih]
    split <;> rfl

theorem sortStable_map (less : β → β → Bool) (items : List α) :
    sortStable less (items.map f) = (sortStable (fun a b => less (f a) (f b)) items).map f := by
  have hfold : ∀ sorted : List α,
      (items.map f).foldl (fun sorted x => insertDown less x sorted) (sorted.map f)
        = (items.foldl
            (fun sorted x => insertDown (fun a b => less (f a) (f b)) x sorted) sorted).map f := by
    induction items with
    | nil => exact fun _ => rfl
    | cons x rest ih =>
      -- The items that are sorted are images, and so are those that come in.
      intro sorted
      rw [List.map_cons, List.foldl_cons, List.foldl_cons, insertDown_map, ih]
  unfold sortStable
  rw [List.map_reverse]
  exact congrArg List.reverse (hfold [])

variable {f}

theorem StablySorted.map {cmp : β → β → Ordering} {before after : List α}
    (h : StablySorted (fun a b => cmp (f a) (f b)) before after) :
    StablySorted cmp (before.map f) (after.map f) where
  perm := h.perm.map f
  sorted := List.pairwise_map.mpr h.sorted
  stable item hitem := by
    obtain ⟨origin, horigin, rfl⟩ := List.mem_map.mp hitem
    rw [List.filter_map, List.filter_map]
    exact congrArg (List.map f) (h.stable origin horigin)

end Map

/-- What is sorted stably by an order in which everything ties is as it was. -/
theorem StablySorted.eq_of_ties {α : Type} {cmp : α → α → Ordering} {before after : List α}
    (h : StablySorted cmp before after) (hties : ∀ a b, cmp a b = .eq) : after = before := by
  -- With one item to compare with, the stable part is the whole list.
  cases before with
  | nil => exact h.perm.eq_nil
  | cons item rest =>
    have hall : ∀ items : List α, items.filter (fun other => cmp item other == .eq) = items :=
      fun items => List.filter_eq_self.mpr fun other _ => by rw [hties, beq_self_eq_true]
    have hstable := h.stable item List.mem_cons_self
    rwa [hall, hall] at hstable

namespace Document

variable {keys : List SortKey} {documents : List Document}

/-- **Documents are put in order** by keys as long as none of them is sorted by NaN. -/
theorem ordered_of_ne_nan
    (h : ∀ document ∈ documents, ∀ key ∈ keys, document.sortValue key ≠ .number .nan) :
    Ordered keys documents := by
  intro a ha b hb c hc hab hbc
  -- Only among documents without NaN the order under the keys is handed on.
  let sortable := {document : Document // ∀ key ∈ keys, document.sortValue key ≠ .number .nan}
  have hordered : TransCmp fun a b : sortable => compareBy keys a.val b.val :=
    transCmp_compareBy Subtype.val fun key hkey =>
      SortOrder.transCmp_of_admits (· ≠ .number .nan)
        (fun document => document.property key hkey) fun hnan => absurd rfl hnan
  exact hordered.isLE_trans (a := ⟨a, h a ha⟩) (b := ⟨b, h b hb⟩) (c := ⟨c, h c hc⟩) hab hbc

/-- **Documents are sorted stably** by keys that put them in order. -/
theorem stablySorted_sortBy (h : Ordered keys documents) :
    StablySorted (compareBy keys) documents (sortBy keys documents) := by
  -- The order is handed on among these documents, so that sorting takes place among them.
  have hordered : TransCmp fun a b : {document // document ∈ documents} =>
      compareBy keys a.val b.val :=
    { eq_swap := OrientedCmp.eq_swap
      isLE_trans := fun {a b c} => h a.val a.property b.val b.property c.val c.property }
  let items : List {document // document ∈ documents} := documents.attach
  have hsorted : StablySorted (compareBy keys) (items.map Subtype.val)
      ((sortStable (fun a b => compareBy keys a.val b.val == .lt) items).map Subtype.val) :=
    (stablySorted_sortStable (fun a b : {document // document ∈ documents} =>
      compareBy keys a.val b.val) items).map
  have hitems : items.map Subtype.val = documents := List.attach_map_subtype_val documents
  rwa [← sortStable_map Subtype.val (fun a b => compareBy keys a b == .lt), hitems] at hsorted

end Document

/-- **Documents that the keys put in order** are arranged stably by every sorter. -/
theorem Sorter.arrange_eq (sorter : Sorter) {keys : List SortKey} {documents : List Document}
    (h : Document.Ordered keys documents) :
    sorter.arrange keys documents = .ok (Document.sortBy keys documents) := by
  cases keys with
  | nil =>
    -- Without keys the documents stay as they are, and so they do where all of them tie.
    rw [arrange_nil, (Document.stablySorted_sortBy h).eq_of_ties fun _ _ => rfl]
  | cons key rest => exact sorter.sort_eq h

end DocumentApi
