import DocumentApi.Bson
import DocumentApi.Proofs.Fields.Pairs
import Mathlib.Data.List.Perm.Basic

/-!
# Documents up to the order of their fields

Two documents are the same up to the order of fields (`Document.Reordered`) if they have the same
names, each as often, and under every name the same value or two documents that are the same in this
sense. Values other than documents have to be equal, arrays with all that is in them.

* `Document.Reordered.insert`, `Document.reordered_insert_insert` — insertions keep the relation,
  and two of them under different names may change places;
* `Document.Reordered.foldl_of_perm` — so may any number of steps, if every two neighbours may.
-/

namespace DocumentApi

namespace Bson

/-- Whether two values are the same up to the order of the fields of documents, at every depth of
documents in documents. -/
inductive Reordered : Bson → Bson → Prop
  | refl (value : Bson) : Reordered value value
  | document {fields others : Fields Bson}
      (keys_perm : (Fields.keys fields).Perm (Fields.keys others))
      (values : ∀ name value other, Fields.get? fields name = some value →
        Fields.get? others name = some other → Reordered value other) :
      Reordered (.document fields) (.document others)

end Bson

namespace Document

/-- Whether two documents are the same up to the order of their fields, and of those of the
documents in them. -/
def Reordered (a b : Document) : Prop :=
  Bson.Reordered (.document a) (.document b)

theorem Reordered.refl (document : Document) : Reordered document document :=
  Bson.Reordered.refl _

variable {a b : Document}

theorem Reordered.keys_perm (h : Reordered a b) : (Fields.keys a).Perm (Fields.keys b) := by
  cases h with
  | refl => exact List.Perm.refl _
  | document hkeys _ => exact hkeys

/-- Under a name that one of two documents has, the other one has a value that is the same up to
order. -/
theorem Reordered.exists_get? (h : Reordered a b) {name : String} {value : Bson}
    (hvalue : Fields.get? a name = some value) :
    ∃ other, Fields.get? b name = some other ∧ Bson.Reordered value other := by
  cases h with
  | refl => exact ⟨value, hvalue, .refl value⟩
  | document hkeys hvalues =>
    -- The names are the same up to order, so the other document has the name too, and a value under
    -- it.
    have hname : name ∈ Fields.keys b :=
      hkeys.subset (Fields.mem_keys_of_mem (Fields.mem_of_get?_eq_some hvalue))
    have hsome : Fields.get? b name ≠ none := fun hnone => Fields.get?_eq_none_iff.mp hnone hname
    obtain ⟨other, hother⟩ := Option.ne_none_iff_exists'.mp hsome
    exact ⟨other, hother, hvalues name value other hvalue hother⟩

theorem Reordered.get?_eq_none (h : Reordered a b) {name : String}
    (hnone : Fields.get? a name = none) : Fields.get? b name = none := by
  rw [Fields.get?_eq_none_iff] at hnone ⊢
  exact fun hname => hnone (h.keys_perm.symm.subset hname)

end Document

namespace Bson

theorem Reordered.trans {a b c : Bson} (hab : Reordered a b) (hbc : Reordered b c) :
    Reordered a c := by
  -- By how the first two are related; documents are compared name by name.
  induction hab generalizing c with
  | refl => exact hbc
  | @document fields others hkeys hvalues ih =>
    cases hbc with
    | refl => exact .document hkeys hvalues
    | @document _ last hkeys' hvalues' =>
      refine .document (hkeys.trans hkeys') fun name value other hvalue hother => ?_
      -- The name is that of a field in the middle, through which the values are compared.
      obtain ⟨middle, hmiddle, -⟩ :=
        Document.Reordered.exists_get? (a := fields) (.document hkeys hvalues) hvalue
      exact ih name value middle hvalue hmiddle (hvalues' name middle other hmiddle hother)

end Bson

namespace Document

theorem Reordered.trans {a b c : Document} (hab : Reordered a b) (hbc : Reordered b c) :
    Reordered a c :=
  Bson.Reordered.trans hab hbc

/-! ### Insertions -/

/-- **An insertion** keeps documents the same up to order. -/
theorem Reordered.insert {a b : Document} (h : Reordered a b) (name : String) {value other : Bson}
    (hvalue : Bson.Reordered value other) :
    Reordered (Fields.insert a name value) (Fields.insert b name other) := by
  -- The names of both results, and then the values under each name.
  refine .document ?_ fun key found found' hfound hfound' => ?_
  · rw [Fields.keys_insert, Fields.keys_insert]
    -- A name that is there keeps its place, and a new one comes last in both.
    by_cases hname : name ∈ Fields.keys a
    · rw [if_pos hname, if_pos (h.keys_perm.subset hname)]
      exact h.keys_perm
    · rw [if_neg hname, if_neg fun hb => hname (h.keys_perm.symm.subset hb)]
      exact h.keys_perm.append_right [name]
  · -- The value that was inserted, or one that was there before.
    by_cases hkey : name = key
    · subst hkey
      rw [Fields.get?_insert_self, Option.some.injEq] at hfound hfound'
      rw [← hfound, ← hfound']
      exact hvalue
    · rw [Fields.get?_insert_of_ne hkey] at hfound hfound'
      obtain ⟨other, hother, hrelated⟩ := h.exists_get? hfound
      obtain rfl : other = found' := Option.some.inj (hother.symm.trans hfound')
      exact hrelated

/-- **Insertions under different names** may change places. -/
theorem reordered_insert_insert (document : Document) {first second : String}
    (hne : first ≠ second) (value other : Bson) :
    Reordered (Fields.insert (Fields.insert document first value) second other)
      (Fields.insert (Fields.insert document second other) first value) := by
  refine .document ?_ fun key found found' hfound hfound' => ?_
  · have hf : first ∈ Fields.keys (Fields.insert document second other) ↔
        first ∈ Fields.keys document := by
      rw [Fields.mem_keys_insert, or_iff_left hne]
    have hs : second ∈ Fields.keys (Fields.insert document first value) ↔
        second ∈ Fields.keys document := by
      rw [Fields.mem_keys_insert, or_iff_left (Ne.symm hne)]
    rw [Fields.keys_insert (Fields.insert document first value) second other,
      Fields.keys_insert (Fields.insert document second other) first value]
    simp only [hf, hs]
    rw [Fields.keys_insert document first value, Fields.keys_insert document second other]
    -- Only if both names are new does the order of the insertions show, at the end.
    by_cases hfirst : first ∈ Fields.keys document
    · rw [if_pos hfirst, if_pos hfirst]
    · rw [if_neg hfirst, if_neg hfirst]
      by_cases hsecond : second ∈ Fields.keys document
      · rw [if_pos hsecond, if_pos hsecond]
      · rw [if_neg hsecond, if_neg hsecond, List.append_assoc, List.append_assoc]
        exact (List.Perm.swap second first []).append_left (Fields.keys document)
  · -- Under every name both orders have the same value.
    have hsame : Fields.get? (Fields.insert (Fields.insert document first value) second other) key
        = Fields.get? (Fields.insert (Fields.insert document second other) first value) key := by
      by_cases hf : first = key
      · subst hf
        rw [Fields.get?_insert_of_ne (Ne.symm hne), Fields.get?_insert_self,
          Fields.get?_insert_self]
      · rw [Fields.get?_insert_of_ne hf]
        by_cases hs : second = key
        · subst hs
          rw [Fields.get?_insert_self, Fields.get?_insert_self]
        · rw [Fields.get?_insert_of_ne hs, Fields.get?_insert_of_ne hf,
            Fields.get?_insert_of_ne hs]
    rw [hsame, hfound', Option.some.injEq] at hfound
    rw [hfound]
    exact .refl found

/-! ### Steps in any order -/

section Steps

variable {α : Type} {step : Document → α → Document}

/-- Steps that each keep documents the same up to order do so one after another. -/
theorem Reordered.foldl
    (hkeep : ∀ {a b : Document} (x : α), Reordered a b → Reordered (step a x) (step b x))
    (items : List α) {a b : Document} (h : Reordered a b) :
    Reordered (items.foldl step a) (items.foldl step b) := by
  induction items generalizing a b with
  | nil => exact h
  | cons x rest ih => exact ih (hkeep x h)

/-- **Steps in any order** give the same document up to order, if every two of them that are apart
may change places and all of them are. -/
theorem Reordered.foldl_of_perm {apart : α → α → Prop}
    (hsymm : ∀ {x y : α}, apart x y → apart y x)
    (hkeep : ∀ {a b : Document} (x : α), Reordered a b → Reordered (step a x) (step b x))
    (hswap : ∀ (document : Document) {x y : α}, apart x y →
      Reordered (step (step document x) y) (step (step document y) x))
    {items others : List α} (hperm : items.Perm others) (hapart : items.Pairwise apart)
    (document : Document) : Reordered (items.foldl step document) (others.foldl step document) := by
  -- By the steps that a permutation is made of. An exchange is where neighbours have to be apart.
  induction hperm generalizing document with
  | nil => exact .refl document
  | cons x _ ih => exact ih (List.pairwise_cons.mp hapart).2 (step document x)
  | swap x y rest =>
    have hyx : apart y x := (List.pairwise_cons.mp hapart).1 x List.mem_cons_self
    exact .foldl hkeep rest (hswap document hyx)
  | trans hfirst _ ih ih' =>
    -- What is apart in one order is apart in the other, so the middle order will do as well.
    have hmiddle := (hfirst.pairwise_iff hsymm).mp hapart
    exact (ih hapart document).trans (ih' hmiddle document)

end Steps

end Document

end DocumentApi
