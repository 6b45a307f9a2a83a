import DocumentApi.Document.Order
import DocumentApi.Error

/-!
# Sorting documents

Sorting is stable: documents that tie keep their order. That is all there is to say about it as long
as the keys put the documents in order. Where they do not, the order of the result is open, and
sorting may be given up altogether. So a `Sorter` is a parameter of stores, and `Document.sortBy` is
what every sorter comes to where the order is not open.

* `Document.sortBy_perm` — sorted documents are the documents, each as often as before;
* `Sorter.stable` — the sorter that inserts one document after another and is never given up.
-/

namespace DocumentApi

/-! ### Stable insertion -/

section Sorting

variable {α : Type} (less : α → α → Bool)

/-- Inserts `x` into a list that is sorted downwards, behind all items that it comes before. -/
def insertDown (x : α) : List α → List α
  | [] => [x]
  | y :: rest => if less x y then y :: insertDown x rest else x :: y :: rest

/-- Sorts a list upwards by inserting its items from left to right, each as far to the right as it
can stand. -/
def sortStable (items : List α) : List α :=
  (items.foldl (fun sorted x => insertDown less x sorted) []).reverse

/-- An insertion adds one item and keeps the others. -/
theorem insertDown_perm (x : α) (items : List α) :
    (insertDown less x items).Perm (x :: items) := by
  induction items with
  | nil => exact List.Perm.refl [x]
  | cons y rest ih =>
    rw [insertDown]
    split
    · -- The item goes on behind the first one.
      calc (y :: insertDown less x rest).Perm (y :: x :: rest) := ih.cons y
        List.Perm _ (x :: y :: rest) := List.Perm.swap x y rest
    · exact List.Perm.refl _

/-- Items that are inserted are there together with those that were there before. -/
theorem foldl_insertDown_perm (sorted items : List α) :
    (items.foldl (fun sorted x => insertDown less x sorted) sorted).Perm (items ++ sorted) := by
  induction items generalizing sorted with
  | nil => exact List.Perm.refl sorted
  | cons x rest ih =>
    rw [List.foldl_cons]
    calc (rest.foldl (fun sorted x => insertDown less x sorted) (insertDown less x sorted)).Perm
          (rest ++ insertDown less x sorted) := ih _
      List.Perm _ (rest ++ x :: sorted) := (insertDown_perm less x sorted).append_left rest
      List.Perm _ (x :: (rest ++ sorted)) := List.perm_middle

/-- **Sorting** neither loses items nor adds any. -/
theorem sortStable_perm (items : List α) : (sortStable less items).Perm items := by
  unfold sortStable
  calc (items.foldl (fun sorted x => insertDown less x sorted) []).reverse.Perm
        (items.foldl (fun sorted x => insertDown less x sorted) []) := List.reverse_perm _
    List.Perm _ (items ++ []) := foldl_insertDown_perm less [] items
    List.Perm _ items := by rw [List.append_nil]

end Sorting

/-! ### Documents -/

namespace Document

variable (keys : List SortKey) (documents : List Document)

/-- Sorts documents by a list of keys. -/
def sortBy : List Document :=
  sortStable (fun a b => compareBy keys a b == .lt) documents

/-- **Sorting documents** neither loses any nor adds any. -/
theorem sortBy_perm : (sortBy keys documents).Perm documents :=
  sortStable_perm _ documents

end Document

/-- A way of sorting documents by a list of keys. A sort that is given up is a failure. -/
structure Sorter where
  sort : List SortKey → List Document → Except StoreError (List Document)
  /-- Documents that are put in order by the keys are sorted stably. -/
  sort_eq : ∀ {keys : List SortKey} {documents : List Document},
    Document.Ordered keys documents → sort keys documents = .ok (Document.sortBy keys documents)
  /-- Whatever the order is, no document is lost and none is added. -/
  perm_of_sort : ∀ {keys : List SortKey} {documents sorted : List Document},
    sort keys documents = .ok sorted → sorted.Perm documents

namespace Sorter

/-- Sorts by insertion, also where the keys do not put the documents in order. -/
def stable : Sorter where
  sort keys documents := .ok (Document.sortBy keys documents)
  sort_eq _ := rfl
  perm_of_sort {keys documents _} h := Except.ok.inj h ▸ Document.sortBy_perm keys documents

variable (sorter : Sorter) {keys : List SortKey} {documents : List Document}

/-- Sorts documents, unless there are no keys. -/
def arrange (keys : List SortKey) (documents : List Document) :
    Except StoreError (List Document) :=
  if keys.isEmpty then .ok documents else sorter.sort keys documents

@[simp] theorem arrange_nil : sorter.arrange [] documents = .ok documents := rfl

/-- **Arranging** neither loses documents nor adds any. -/
theorem perm_of_arrange {arranged : List Document}
    (h : sorter.arrange keys documents = .ok arranged) : arranged.Perm documents := by
  unfold arrange at h
  split at h
  · cases h
    exact List.Perm.refl documents
  · exact sorter.perm_of_sort h

end Sorter

end DocumentApi
