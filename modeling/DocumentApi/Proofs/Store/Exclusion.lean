import DocumentApi.Proofs.Store.Uniqueness
import Mathlib.Data.List.Perm.Basic

/-!
# What a unique field rules out

A relation between documents is *ruled out* by a unique field if related documents share a value of
the field that is not null (`Collection.RuledOut`). If no two documents of a collection are related
in this way (`Collection.Excludes`), then none ever are, as long as the field is unique:

* `RuledOut.insertAll`, `RuledOut.changed` — insertions and changes relate no documents, whichever
  of them are carried out;
* `RuledOut.not_related` — the documents at two places are not related then.

The relation has to be symmetric, since a document that is written is compared with those that are
there, and not the other way round.
-/

namespace DocumentApi

namespace Collection

/-- Whether documents are related only if they share a value of a field. -/
structure RuledOut (field : String) (related : Document → Document → Prop) : Prop where
  symm : ∀ {a b : Document}, related a b → related b a
  clash : ∀ {a b : Document}, related a b → Clash field a b

/-- Whether no two documents of a collection are related. -/
def Excludes (related : Document → Document → Prop) (collection : Collection) : Prop :=
  collection.documents.Pairwise fun a b => ¬ related a b

variable {collection : Collection} {name field : String} {related : Document → Document → Prop}

theorem excludes_of_eq_nil (h : collection.documents = []) : collection.Excludes related := by
  unfold Excludes
  rw [h]
  exact List.Pairwise.nil

theorem Excludes.addUnique (h : collection.Excludes related) (other : String) :
    (collection.addUnique other).Excludes related := by
  unfold Excludes
  rw [documents_addUnique]
  exact h

namespace RuledOut

/-- In any order of the documents, those at two places are not related. -/
theorem not_related_of_perm (hrelated : RuledOut field related) (h : collection.Excludes related)
    {order : List Document} (hperm : order.Perm collection.documents) {i j : Nat} (hij : i ≠ j)
    {a b : Document} (ha : order[i]? = some a) (hb : order[j]? = some b) : ¬ related a b := by
  -- That no two are related does not depend on the order, since the relation is symmetric.
  have hpairwise : order.Pairwise fun a b => ¬ related a b :=
    (hperm.pairwise_iff fun hnot hback => hnot (hrelated.symm hback)).mpr h
  rw [List.pairwise_iff_getElem] at hpairwise
  obtain ⟨hi, rfl⟩ := List.getElem?_eq_some_iff.mp ha
  obtain ⟨hj, rfl⟩ := List.getElem?_eq_some_iff.mp hb
  -- It does not matter which of the two places comes first.
  rcases Nat.lt_or_gt_of_ne hij with hlt | hgt
  · exact hpairwise i j hi hj hlt
  · exact fun hab => hpairwise j i hj hi hgt (hrelated.symm hab)

/-- **Documents at two places** are not related. -/
theorem not_related (hrelated : RuledOut field related) (h : collection.Excludes related)
    {i j : Nat} (hij : i ≠ j) {a b : Document} (ha : collection.documents[i]? = some a)
    (hb : collection.documents[j]? = some b) : ¬ related a b :=
  hrelated.not_related_of_perm h (List.Perm.refl _) hij ha hb

/-- A document that passes the check is related to none of those that it was compared with. -/
theorem not_related_of_checkUnique (hrelated : RuledOut field related)
    (hfield : field ∈ collection.indexedFields) {others : List Document} {candidate : Document}
    (hcheck : collection.checkUnique name others candidate = .ok ()) :
    ∀ other ∈ others, ¬ related other candidate :=
  fun _ hother hab => not_clash_of_checkUnique hcheck hfield hother (hrelated.clash hab)

/-- **An insertion** relates no documents. -/
theorem insert (hrelated : RuledOut field related) (hfield : field ∈ collection.indexedFields)
    {document : Document} {larger : Collection}
    (hinsert : collection.insert name document = .ok larger)
    (h : collection.Excludes related) : larger.Excludes related := by
  obtain ⟨-, hcheck, rfl⟩ := insert_eq_ok hinsert
  -- The new document comes last, so it is compared with all others.
  have hnew := hrelated.not_related_of_checkUnique hfield hcheck
  refine List.pairwise_append.mpr ⟨h, List.pairwise_singleton _ _, ?_⟩
  intro other hother inserted hinserted
  rw [List.mem_singleton.mp hinserted]
  exact hnew other hother

/-- **Insertions** relate no documents. -/
theorem insertAll (hrelated : RuledOut field related) (hfield : field ∈ collection.indexedFields)
    (documents : List Document) (h : collection.Excludes related) :
    (collection.insertAll name documents).2.Excludes related := by
  -- The field has to stay unique along the way, so both are shown together.
  suffices hall : field ∈ (collection.insertAll name documents).2.indexedFields ∧
      (collection.insertAll name documents).2.Excludes related from hall.2
  refine insertAll_induction
    (motive := fun after => field ∈ after.indexedFields ∧ after.Excludes related) ⟨hfield, h⟩ ?_
  rintro before after document - hinsert ⟨hbefore, hexcludes⟩
  refine ⟨?_, hrelated.insert hbefore hinsert hexcludes⟩
  obtain ⟨-, -, rfl⟩ := insert_eq_ok hinsert
  exact hbefore

/-- **A change** relates no documents, whether or not it is carried out. -/
theorem changed (hrelated : RuledOut field related) (hfield : field ∈ collection.indexedFields)
    (id : ObjectId) (changes : Fields Bson) (h : collection.Excludes related) :
    (collection.changed name id changes).Excludes related := by
  -- A change that is carried out has passed the check.
  rcases collection.changed_cases name id changes with ⟨before, after, hupdate⟩ | ⟨hsame, -⟩
  · obtain ⟨place, -, hbefore, -, hcheck, hresult⟩ := update_eq_ok hupdate
    have hlt : place < collection.documents.length := (List.getElem?_eq_some_iff.mp hbefore).1
    have hnew := hrelated.not_related_of_checkUnique hfield hcheck
    -- The changed document might as well stand in front of the others.
    have hperm : (collection.documents.set place after).Perm
        (after :: collection.documents.eraseIdx place) := List.set_perm_cons_eraseIdx hlt after
    -- The others stay unrelated without the document that is replaced.
    have hothers : (collection.documents.eraseIdx place).Pairwise fun a b => ¬ related a b :=
      List.Pairwise.sublist (List.eraseIdx_sublist _ _) h
    unfold Excludes
    rw [hresult]
    refine (hperm.pairwise_iff fun hnot hback => hnot (hrelated.symm hback)).mpr ?_
    exact List.pairwise_cons.mpr
      ⟨fun other hother hab => hnew other hother (hrelated.symm hab), hothers⟩
  · -- Otherwise the collection is the same.
    rw [hsame]
    exact h

end RuledOut

end Collection

end DocumentApi
