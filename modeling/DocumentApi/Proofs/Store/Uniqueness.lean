import DocumentApi.Proofs.Backend.Calls

/-!
# Unique fields

A unique index is checked when a document is written, against all other documents of its collection
as they are then. Documents that were there before the index are not checked, so two of them may
share a value for good. What holds along a run of calls (`Backend.unique_reached`):

* two documents share a value of a unique field only if neither of them has been written since the
  field became unique;
* in particular no two documents ever share one if the field became unique while the collection was
  empty, and so no two documents ever have the same identifier.

The invariant is about one place of a collection: `Collection.Apart` says that the document there,
if there is one, shares no value with any other. It is kept by every operation as long as the field
is unique, and every write brings it about at the place that is written (`Call.apart_after`). Places
are what identifies documents here, since documents change; a place keeps its document until the
collection is dropped.
-/

namespace DocumentApi

namespace Collection

variable {collection : Collection} {name field : String}

/-! ### Documents that share a value -/

/-- Whether two documents hold the same value under a field, and it is not null. -/
def Clash (field : String) (a b : Document) : Prop :=
  ∃ value value', indexed? a field = some value ∧ indexed? b field = some value' ∧
    value.same value' = true

theorem get?_of_indexed? {document : Document} {value : Bson}
    (h : indexed? document field = some value) : Fields.get? document field = some value := by
  unfold indexed? at h
  split at h
  · cases h
  · exact h

theorem Clash.symm {a b : Document} (ha : a.WellFormed) (hb : b.WellFormed)
    (h : Clash field a b) : Clash field b a := by
  -- The values are the same whichever comes first, as no name in them is repeated.
  obtain ⟨value, value', hvalue, hvalue', hsame⟩ := h
  exact ⟨value', value, hvalue', hvalue,
    Bson.same_symm (ha.get? (get?_of_indexed? hvalue)) (hb.get? (get?_of_indexed? hvalue')) hsame⟩

theorem clash?_eq_none {others : List Document} {candidate : Document} {fields : List String}
    (h : clash? others candidate fields = none) (hfield : field ∈ fields) {value : Bson}
    (hvalue : indexed? candidate field = some value) : others.any (holds field value) = false := by
  -- The fields are checked from first to last, and none of them has found a clash.
  induction fields with
  | nil => exact absurd hfield List.not_mem_nil
  | cons first rest ih =>
    rw [clash?] at h
    rcases List.mem_cons.mp hfield with rfl | hrest
    · -- The field itself has been looked up among the others.
      rw [hvalue] at h
      simp only at h
      split at h
      · cases h
      · next hnone => exact Bool.eq_false_iff.mpr hnone
    · -- What comes before the field does not matter, whether it is null, absent or without a clash.
      refine ih ?_ hrest
      split at h
      · split at h
        · cases h
        · exact h
      · exact h

/-- A document that passes the check clashes with none of those it was compared with. -/
theorem not_clash_of_checkUnique {others : List Document} {candidate other : Document}
    (h : collection.checkUnique name others candidate = .ok ())
    (hfield : field ∈ collection.indexedFields) (hother : other ∈ others) :
    ¬ Clash field other candidate := by
  rintro ⟨value, value', hvalue, hvalue', hsame⟩
  -- If the two shared a value, the check would have found the other document.
  have hnone := clash?_eq_none (checkUnique_eq_ok.mp h) hfield hvalue'
  have hholds := List.any_eq_false.mp hnone other hother
  rw [holds, get?_of_indexed? hvalue] at hholds
  exact hholds hsame

/-- Whether two documents share no value of a field, whichever of them is compared with the
other. -/
def Differ (field : String) (a b : Document) : Prop :=
  ¬ Clash field a b ∧ ¬ Clash field b a

theorem Differ.symm {a b : Document} (h : Differ field a b) : Differ field b a :=
  And.symm h

/-- The check compares in one direction only; for well-formed documents this is enough. -/
theorem differ_of_checkUnique {others : List Document} {candidate other : Document}
    (h : collection.checkUnique name others candidate = .ok ())
    (hfield : field ∈ collection.indexedFields) (hother : other ∈ others)
    (hwell : other.WellFormed) (hcandidate : candidate.WellFormed) :
    Differ field other candidate := by
  have hclash := not_clash_of_checkUnique h hfield hother
  -- With the relation symmetric, one comparison rules out both directions.
  exact ⟨hclash, fun hback => hclash (hback.symm hcandidate hwell)⟩

/-! ### Places -/

/-- Whether the documents at two places of a collection share a value of a field. -/
def Share (collection : Collection) (field : String) (i j : Nat) : Prop :=
  ∃ a b, collection.documents[i]? = some a ∧ collection.documents[j]? = some b ∧ Clash field a b

/-- Whether the document at a place of a collection, if there is one, differs from those at all
other places. -/
def Apart (collection : Collection) (field : String) (place : Nat) : Prop :=
  ∀ other, other ≠ place → ∀ a b, collection.documents[place]? = some a →
    collection.documents[other]? = some b → Differ field a b

theorem Apart.not_share {i j : Nat} (h : collection.Apart field i) (hij : j ≠ i) :
    ¬ collection.Share field i j ∧ ¬ collection.Share field j i := by
  constructor
  · rintro ⟨a, b, ha, hb, hclash⟩
    exact (h j hij a b ha hb).1 hclash
  · rintro ⟨a, b, ha, hb, hclash⟩
    exact (h j hij b a hb ha).2 hclash

theorem apart_of_length_le {place : Nat} (h : collection.documents.length ≤ place) :
    collection.Apart field place := by
  intro other _ a b ha
  -- There is no document at such a place.
  rw [List.getElem?_eq_none_iff.mpr h] at ha
  cases ha

/-- **Writing one place.** If the documents at all other places are as they were and differ from the
one that is written, then its place is apart afterwards, and so is every place that was. -/
theorem apart_of_write (before : Collection) {after : Collection} (written : Nat)
    (document : Document)
    (hwritten : ∀ found, after.documents[written]? = some found → found = document)
    (hothers : ∀ i, i ≠ written → ∀ found, after.documents[i]? = some found →
      before.documents[i]? = some found ∧ Differ field found document)
    {place : Nat} (h : place = written ∨ before.Apart field place) :
    after.Apart field place := by
  intro other hother a b ha hb
  -- Either place may be the one that is written.
  by_cases hplace : place = written
  · subst hplace
    rw [hwritten a ha]
    exact (hothers other hother b hb).2.symm
  · obtain ⟨hbefore, hdiffer⟩ := hothers place hplace a ha
    by_cases hother' : other = written
    · subst hother'
      rw [hwritten b hb]
      exact hdiffer
    · -- Both places are as they were.
      exact h.resolve_left hplace other hother a b hbefore (hothers other hother' b hb).1

/-! ### Operations on a collection -/

/-- Inserting a document keeps places apart. -/
theorem Apart.insert {larger : Collection} {document : Document}
    (hwell : collection.WellFormed) (hdocument : document.WellFormed)
    (hfield : field ∈ collection.indexedFields)
    (hinsert : collection.insert name document = .ok larger) {place : Nat}
    (h : collection.Apart field place) : larger.Apart field place := by
  obtain ⟨-, hcheck, rfl⟩ := insert_eq_ok hinsert
  -- What is written is the place behind all others.
  refine apart_of_write collection collection.documents.length document ?_ ?_ (Or.inr h)
  · intro found hfound
    simpa using hfound.symm
  · -- A place that is not the last one was there before.
    intro i hi found hfound
    have hold : collection.documents[i]? = some found := by
      rcases Nat.lt_or_gt_of_ne hi with hlt | hgt
      · rwa [List.getElem?_append_left hlt] at hfound
      · have hlength := (List.getElem?_eq_some_iff.mp hfound).1
        rw [List.length_append, List.length_singleton] at hlength
        omega
    have hmem := List.mem_of_getElem? hold
    exact ⟨hold, differ_of_checkUnique hcheck hfield hmem (hwell found hmem) hdocument⟩

/-- Inserting documents one after another keeps places apart; places that were free before are among
them, whichever of them are taken. -/
theorem Apart.insertAll {documents : List Document} (hwell : collection.WellFormed)
    (hdocuments : ∀ document ∈ documents, document.WellFormed)
    (hfield : field ∈ collection.indexedFields) {place : Nat} (h : collection.Apart field place) :
    (collection.insertAll name documents).2.Apart field place := by
  -- The collections in between have to be well-formed and the field unique, for the next one.
  suffices hall : (collection.insertAll name documents).2.WellFormed ∧
      field ∈ (collection.insertAll name documents).2.indexedFields ∧
        (collection.insertAll name documents).2.Apart field place from hall.2.2
  refine insertAll_induction
    (motive := fun after =>
      after.WellFormed ∧ field ∈ after.indexedFields ∧ after.Apart field place)
    ⟨hwell, hfield, h⟩ ?_
  rintro before after document hmem hinsert ⟨hwell, hfield, hapart⟩
  refine ⟨hwell.insert (hdocuments document hmem) hinsert, ?_,
    hapart.insert hwell (hdocuments document hmem) hfield hinsert⟩
  obtain ⟨-, -, rfl⟩ := insert_eq_ok hinsert
  exact hfield

/-- A change that is carried out keeps places apart and makes the changed one so. -/
theorem apart_of_update {id : ObjectId} {changes : Fields Bson} {before after : Document}
    {result : Collection} (hwell : collection.WellFormed)
    (hchanges : ∀ change ∈ changes, change.2.WellFormed)
    (hfield : field ∈ collection.indexedFields)
    (hupdate : collection.update name id changes = .ok (some (before, after, result)))
    {place : Nat} (h : collection.position? id = some place ∨ collection.Apart field place) :
    result.Apart field place := by
  obtain ⟨written, hposition, hbefore, rfl, hcheck, rfl⟩ := update_eq_ok hupdate
  -- The changed document is well-formed, as the values of the changes are.
  have hafter := (hwell before (List.mem_of_getElem? hbefore)).applyChanges hchanges
  refine apart_of_write collection written (before.applyChanges changes) ?_ ?_ ?_
  · -- At the place that is written stands the changed document.
    intro found hfound
    rw [List.getElem?_set_self (List.getElem?_eq_some_iff.mp hbefore).1] at hfound
    exact (Option.some.inj hfound).symm
  · -- The documents at other places are those that it was compared with.
    intro i hi found hfound
    rw [List.getElem?_set_ne (Ne.symm hi)] at hfound
    have hmem : found ∈ collection.documents.eraseIdx written :=
      List.mem_eraseIdx_iff_getElem?.mpr ⟨i, hi, hfound⟩
    exact ⟨hfound, differ_of_checkUnique hcheck hfield hmem
      (hwell found (List.mem_of_getElem? hfound)) hafter⟩
  · -- The place is the one of the identifier, or was apart before.
    rw [hposition, Option.some.injEq] at h
    exact h.imp_left Eq.symm

end Collection

namespace Backend

variable (engine : StoreEngine)

/-! ### Runs of calls -/

/-- **One call.** A place that is apart under a unique field stays so, and a place that is written
becomes so. -/
theorem Call.apart_after {store : Store} {name field : String} {place : Nat}
    (hwell : (store.collection name).WellFormed)
    (hfield : field ∈ (store.collection name).indexedFields) {call : Call}
    (hcall : call.WellFormed)
    (h : call.Writes store name place ∨ (store.collection name).Apart field place) :
    ((call.after engine store).collection name).Apart field place := by
  -- One case for each effect that a call can have on the collection.
  have heffect := call.effect engine store name
  generalize (call.after engine store).collection name = after at heffect ⊢
  cases heffect with
  | none hwrites hdrop => exact h.resolve_left (hwrites place)
  | insert documents =>
    -- A place that is written was free before.
    have hapart : (store.collection name).Apart field place :=
      h.elim (fun hwrites => Collection.apart_of_length_le hwrites.2.1) id
    exact hapart.insertAll hwell hcall hfield
  | update id changes returning =>
    rcases (store.collection name).changed_cases name id changes with
      ⟨before, after, hupdate⟩ | ⟨hsame, hnone⟩
    · refine Collection.apart_of_update hwell hcall hfield hupdate ?_
      exact h.imp_left fun hwrites => hwrites.2.1
    · -- A change that is not carried out writes nothing.
      rw [hsame]
      refine h.resolve_left ?_
      rintro ⟨-, -, document, hdocument⟩
      obtain ⟨before, after, result, hupdate, -⟩ :=
        (Store.update_fst_eq_ok store name).mp hdocument
      exact hnone _ hupdate
  -- An index changes no document, so every place is as it was.
  | createIndex indexed =>
    unfold Collection.Apart
    rw [Collection.documents_addUnique]
    exact h.resolve_left id
  -- Nothing is left after a drop.
  | drop => exact Collection.apart_of_length_le (Nat.zero_le place)

variable {calls : List Call}

/-- Whether a field of a collection is unique in all stores of a run from one of them on. -/
def UniqueFrom (calls : List Call) (name field : String) (start : Nat) : Prop :=
  ∀ count, start ≤ count → field ∈ ((reached engine calls count).collection name).indexedFields

/-- **A stretch of a run** in which a field is unique: a place that is apart at its start is apart
from then on. -/
theorem apart_reached {name field : String} {start : Nat}
    (hcalls : ∀ call ∈ calls, call.WellFormed) {place : Nat}
    (hunique : UniqueFrom engine calls name field start)
    (h : ((reached engine calls start).collection name).Apart field place) {count : Nat}
    (hcount : start ≤ count) :
    ((reached engine calls count).collection name).Apart field place := by
  -- The invariant starts at the given store and is kept by one call.
  refine Store.reached_le_induction (Call.after engine)
    (motive := fun store => (store.collection name).Apart field place) h ?_ hcount
  intro count call hfrom hcall hapart
  exact Call.apart_after engine (wellFormed_reached engine hcalls count name)
    (hunique count hfrom) (hcalls call (List.mem_of_getElem? hcall)) (Or.inr hapart)

/-- A field that is unique stays so until the collection is dropped. -/
theorem mem_indexedFields_after {store : Store} {name field : String} {call : Call}
    (hcall : call ≠ .drop name) (h : field ∈ (store.collection name).indexedFields) :
    field ∈ ((call.after engine store).collection name).indexedFields := by
  -- Only a drop takes an index away.
  have heffect := call.effect engine store name
  generalize (call.after engine store).collection name = after at heffect ⊢
  cases heffect with
  | none => exact h
  | insert documents =>
    rw [Collection.indexedFields_insertAll]
    exact h
  | update id changes returning =>
    rw [Collection.indexedFields_changed]
    exact h
  | createIndex indexed => exact Collection.mem_indexedFields_addUnique.mpr (Or.inl h)
  | drop => exact absurd rfl hcall

/-- A field that is made unique is so from then on, if the collection is not dropped. -/
theorem uniqueFrom_of_createIndex {name field : String} {start : Nat}
    (hcreate : calls[start]? = some (.createIndex name field true))
    (hdrop : ∀ count, start < count → calls[count]? ≠ some (.drop name)) :
    UniqueFrom engine calls name field (start + 1) := by
  intro count hcount
  -- The field is unique after the call that makes it so, and no drop comes later.
  refine Store.reached_le_induction (Call.after engine)
    (motive := fun store => field ∈ (store.collection name).indexedFields) ?_ ?_ hcount
  · rw [Store.reached_succ _ hcreate, Call.after_eq, Store.collection_createIndex,
      if_pos ⟨rfl, rfl⟩]
    exact Collection.mem_indexedFields_addUnique.mpr (Or.inr rfl)
  · intro later call hlater hcall hmem
    refine mem_indexedFields_after engine ?_ hmem
    rintro rfl
    exact hdrop later hlater hcall

/-- The identifier is always unique. -/
theorem uniqueFrom_idField (name : String) : UniqueFrom engine calls name Schema.idField 0 :=
  fun _ _ => List.mem_cons_self

/-- From an empty collection on, no two documents share a value of a field that is unique. -/
theorem not_share_of_eq_nil (hcalls : ∀ call ∈ calls, call.WellFormed) {name field : String}
    {i j : Nat} (hij : i ≠ j) {start : Nat} (hstart : start ≤ calls.length)
    (hdocuments : ((reached engine calls start).collection name).documents = [])
    (hunique : UniqueFrom engine calls name field start) :
    ¬ ((reached engine calls calls.length).collection name).Share field i j := by
  -- Every place of an empty collection is apart, and stays so to the end of the run.
  have hapart : ((reached engine calls start).collection name).Apart field i :=
    Collection.apart_of_length_le (by rw [hdocuments]; exact Nat.zero_le i)
  exact ((apart_reached engine hcalls hunique hapart hstart).not_share hij.symm).1

/-- A place that is written while a field is unique is apart at the end of the run. -/
theorem apart_of_writes (hcalls : ∀ call ∈ calls, call.WellFormed) {name field : String}
    {count : Nat} {call : Call} (hcall : calls[count]? = some call)
    (hunique : UniqueFrom engine calls name field count) {place : Nat}
    (hwrites : call.Writes (reached engine calls count) name place) :
    ((reached engine calls calls.length).collection name).Apart field place := by
  have hcount : count < calls.length := (List.getElem?_eq_some_iff.mp hcall).1
  have hlater : UniqueFrom engine calls name field (count + 1) :=
    fun later hfrom => hunique later (Nat.le_of_succ_le hfrom)
  refine apart_reached engine hcalls hlater ?_ hcount
  -- The call itself brings it about.
  rw [reached_succ engine hcall]
  exact Call.apart_after engine (wellFormed_reached engine hcalls count name)
    (hunique count (Nat.le_refl _)) (hcalls call (List.mem_of_getElem? hcall)) (Or.inl hwrites)

/-- **Unique indexes along runs.** Let calls be made on the empty store one after another, whose
documents have distinct names at every depth, and consider the collection of any name in the last
store and two different places in it.

* If the documents at these places share a value of a field that is not null, then neither place has
  been written by a call from which on the field was unique.
* If the field was unique from a store on in which the collection was empty, then the documents
  share no value of it; and this is so if the field was made unique while the collection was empty,
  and the collection was not dropped later.
* The documents do not have the same identifier. -/
theorem unique_reached (hcalls : ∀ call ∈ calls, call.WellFormed) (name field : String) {i j : Nat}
    (hij : i ≠ j) :
    (((reached engine calls calls.length).collection name).Share field i j →
      ∀ count call, calls[count]? = some call → UniqueFrom engine calls name field count →
        ¬ call.Writes (reached engine calls count) name i ∧
          ¬ call.Writes (reached engine calls count) name j) ∧
    (∀ start, start ≤ calls.length →
      ((reached engine calls start).collection name).documents = [] →
      UniqueFrom engine calls name field start →
        ¬ ((reached engine calls calls.length).collection name).Share field i j) ∧
    (∀ start, calls[start]? = some (.createIndex name field true) →
      ((reached engine calls start).collection name).documents = [] →
      (∀ count, start < count → calls[count]? ≠ some (.drop name)) →
        ¬ ((reached engine calls calls.length).collection name).Share field i j) ∧
    ¬ ((reached engine calls calls.length).collection name).Share Schema.idField i j := by
  refine ⟨?_, fun start => not_share_of_eq_nil engine hcalls hij, ?_, ?_⟩
  · intro hshare count call hcall hunique
    -- What is apart shares no value, whichever of the two places was written.
    constructor
    · intro hwrites
      have hapart := apart_of_writes engine hcalls hcall hunique hwrites
      exact (hapart.not_share hij.symm).1 hshare
    · intro hwrites
      have hapart := apart_of_writes engine hcalls hcall hunique hwrites
      exact (hapart.not_share hij).2 hshare
  · -- An index on an empty collection leaves it empty, and the field is unique from then on.
    intro start hcreate hdocuments hdrop
    have hstart : start < calls.length := (List.getElem?_eq_some_iff.mp hcreate).1
    refine not_share_of_eq_nil engine hcalls hij hstart ?_
      (uniqueFrom_of_createIndex engine hcreate hdrop)
    rw [reached_succ engine hcreate, Call.after_eq, Store.collection_createIndex,
      if_pos ⟨rfl, rfl⟩, Collection.documents_addUnique]
    exact hdocuments
  · -- The identifier is unique from the start, where there are no documents.
    exact not_share_of_eq_nil engine hcalls hij (Nat.zero_le _) rfl (uniqueFrom_idField engine name)

/-- Two documents that share a value before its field becomes unique, and one that comes after
them. -/
def lateIndex : List Call :=
  [.insert "items" [[("_id", .objectId (.ofNat 1)), ("n", .int32 5)],
      [("_id", .objectId (.ofNat 2)), ("n", .int32 5)]],
    .createIndex "items" "n" true,
    .insert "items" [[("_id", .objectId (.ofNat 3)), ("n", .int32 5)]]]

/-- The two documents share their value for good, and neither is written after the index is
created. -/
theorem unique_reached_lateIndex :
    ((reached .withoutPatterns lateIndex lateIndex.length).collection "items").Share "n" 0 1 ∧
    ∀ count call, lateIndex[count]? = some call →
      UniqueFrom .withoutPatterns lateIndex "items" "n" count →
      ¬ call.Writes (reached .withoutPatterns lateIndex count) "items" 0 ∧
        ¬ call.Writes (reached .withoutPatterns lateIndex count) "items" 1 := by
  have hcalls : ∀ call ∈ lateIndex, call.WellFormed := by
    simp [lateIndex, Call.WellFormed, Document.WellFormed, Bson.WellFormed, Bson.WellFormedFields,
      Fields.keys]
  have hshare :
      ((reached .withoutPatterns lateIndex lateIndex.length).collection "items").Share "n" 0 1 :=
    ⟨_, _, rfl, rfl, .int32 5, .int32 5, rfl, rfl, rfl⟩
  exact ⟨hshare, (unique_reached _ hcalls "items" "n" (by decide)).1 hshare⟩

end Backend

end DocumentApi
