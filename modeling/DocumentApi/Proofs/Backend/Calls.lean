import DocumentApi.Proofs.Backend.InMemory
import DocumentApi.Proofs.Bson.WellFormed
import DocumentApi.Proofs.Store.Run
import DocumentApi.Proofs.Store.Writes

/-!
# Runs of calls

Calls made one after another on the backend in memory. Each operation holds the store while it is
carried out, so whatever happens at the same time happens in some order, and the stores that occur
are those of runs whose steps are calls.

* `Call.after_eq`, `Call.effect` — what a call does to the store, and to one of its collections,
  whether or not it fails;
* `Backend.wellFormed_reached` — calls with well-formed documents keep the documents well-formed.
-/

namespace DocumentApi

namespace Backend

namespace Call

/-- Makes a call on a backend, disregarding what it answers. -/
def make {m : Type → Type} [Monad m] (backend : Backend m) : Call → ExceptT StoreError m Unit
  | .fetch name id projection => do
    let _ ← backend.fetch id projection name
    pure ()
  | .select name selection => do
    let _ ← backend.select selection name
    pure ()
  | .count name criteria => do
    let _ ← backend.count criteria name
    pure ()
  | .fetchAll name ids => do
    let _ ← backend.fetchAll ids name
    pure ()
  | .insert name documents => backend.insert documents name
  | .update name id changes returning => do
    let _ ← backend.update id changes returning name
    pure ()
  | .createIndex name field unique => backend.createIndex name field unique
  | .drop name => backend.drop name

variable (engine : StoreEngine)

/-- The store after a call, whether or not it fails. -/
def after (store : Store) (call : Call) : Store :=
  (StoreM.perform (call.make (.inMemory engine)) store).2

variable (store : Store)

/-- **What a call does to the store**, by the kinds of calls. -/
theorem after_eq (call : Call) :
    call.after engine store =
      match call with
      | .insert name documents => (store.insertAll documents name).2
      | .update name id changes returning => (store.update id changes returning name).2
      | .createIndex name field unique => store.createIndex name field unique
      | .drop name => store.drop name
      | _ => store := by
  unfold after make
  cases call with
  | select name selection =>
    -- A read that fails ends the call, in the store that it was made on.
    simp only
    rw [StoreM.perform_bind, StoreM.perform_select]
    cases store.select engine selection name <;> rfl
  | count name criteria =>
    simp only
    rw [StoreM.perform_bind, StoreM.perform_count]
    cases store.count engine criteria name <;> rfl
  | update name id changes returning =>
    simp only
    rw [StoreM.perform_bind, StoreM.perform_update]
    rcases store.update id changes returning name with ⟨outcome, after⟩
    -- An update that finds nothing and one that fails end in the store that the update itself
    -- leaves.
    cases outcome <;> rfl
  | _ => rfl

/-- Whether the documents and values that a call brings along have distinct names at every depth, as
maps with one value for a name do. -/
def WellFormed : Call → Prop
  | .insert _ documents => ∀ document ∈ documents, document.WellFormed
  | .update _ _ changes _ => ∀ change ∈ changes, change.2.WellFormed
  | _ => True

/-- Whether a call, made on a store, writes the document at a place of a collection: it inserts it,
perhaps as one of several documents of which later ones are refused, or changes it. -/
def Writes (store : Store) (name : String) (place : Nat) : Call → Prop
  | .insert other documents =>
    other = name ∧ (store.collection name).documents.length ≤ place ∧
      place < ((store.insertAll documents name).2.collection name).documents.length
  | .update other id changes returning =>
    other = name ∧ (store.collection name).position? id = some place ∧
      ∃ document, (store.update id changes returning name).1 = .ok (some document)
  | _ => False

/-- What a call, made on a store, can do to the collection of a name: it leaves it as it is and does
not write it, or it is one of the four writing operations on this collection. -/
inductive Effect (store : Store) (name : String) : Call → Collection → Prop
  | none {call : Call} (hwrites : ∀ place, ¬ call.Writes store name place)
      (hdrop : call ≠ .drop name) : Effect store name call (store.collection name)
  | insert (documents : List Document) :
      Effect store name (.insert name documents)
        ((store.collection name).insertAll name documents).2
  | update (id : ObjectId) (changes : Fields Bson) (returning : Returning) :
      Effect store name (.update name id changes returning)
        ((store.collection name).changed name id changes)
  | createIndex (field : String) :
      Effect store name (.createIndex name field true) ((store.collection name).addUnique field)
  | drop : Effect store name (.drop name) .empty

/-- **What a call does to one collection.** -/
theorem effect (call : Call) (name : String) :
    Effect store name call ((call.after engine store).collection name) := by
  rw [after_eq]
  cases call with
  | insert other documents =>
    -- By whether the call is about this collection. If it is not, then it neither writes nor drops
    -- it.
    simp only [Store.collection_insertAll]
    split
    · next h =>
      subst h
      exact .insert documents
    · next h => exact .none (fun place hwrites => h hwrites.1) (by simp)
  | update other id changes returning =>
    simp only [Store.collection_update]
    split
    · next h =>
      subst h
      exact .update id changes returning
    · next h => exact .none (fun place hwrites => h hwrites.1) (by simp)
  | createIndex other field unique =>
    -- An index that is not unique changes nothing either.
    simp only [Store.collection_createIndex]
    split
    · next h =>
      obtain ⟨rfl, rfl⟩ := h
      exact .createIndex field
    · exact .none (fun place hwrites => hwrites) (by simp)
  | drop other =>
    simp only [Store.collection_drop]
    split
    · next h =>
      subst h
      exact .drop
    · next h => exact .none (fun place hwrites => hwrites) (by simpa using h)
  | _ => exact .none (fun place hwrites => hwrites) (by simp)

end Call

variable (engine : StoreEngine) {calls : List Call}

/-- The store after so many of some calls. -/
def reached (calls : List Call) (count : Nat) : Store :=
  Store.reached (Call.after engine) calls count

theorem reached_succ {count : Nat} {call : Call} (h : calls[count]? = some call) :
    reached engine calls (count + 1) = call.after engine (reached engine calls count) :=
  Store.reached_succ _ h

end Backend

/-! ### Well-formed documents -/

/-- Whether the names of fields are distinct in all documents of a collection. -/
def Collection.WellFormed (collection : Collection) : Prop :=
  ∀ document ∈ collection.documents, document.WellFormed

namespace Collection

variable {collection : Collection} {name : String}

theorem WellFormed.insert (h : collection.WellFormed) {document : Document}
    (hdocument : document.WellFormed) {larger : Collection}
    (hinsert : collection.insert name document = .ok larger) : larger.WellFormed := by
  obtain ⟨-, -, rfl⟩ := insert_eq_ok hinsert
  intro other hother
  -- An old document, or the new one at the end.
  rcases List.mem_append.mp hother with hold | hnew
  · exact h other hold
  · rw [List.mem_singleton.mp hnew]
    exact hdocument

theorem WellFormed.insertAll (h : collection.WellFormed) {documents : List Document}
    (hdocuments : ∀ document ∈ documents, document.WellFormed) :
    (collection.insertAll name documents).2.WellFormed := by
  refine insertAll_induction h ?_
  intro before after document hmem hinsert hbefore
  exact hbefore.insert (hdocuments document hmem) hinsert

theorem WellFormed.changed (h : collection.WellFormed) (id : ObjectId) {changes : Fields Bson}
    (hchanges : ∀ change ∈ changes, change.2.WellFormed) :
    (collection.changed name id changes).WellFormed := by
  -- A change that is carried out replaces one document, and any other one leaves the collection
  -- alone.
  rcases collection.changed_cases name id changes with ⟨before, after, hupdate⟩ | ⟨hsame, -⟩
  · obtain ⟨place, -, hbefore, rfl, -, hresult⟩ := update_eq_ok hupdate
    rw [hresult]
    intro document hdocument
    rcases List.mem_or_eq_of_mem_set hdocument with hold | rfl
    · exact h document hold
    · exact (h before (List.mem_of_getElem? hbefore)).applyChanges hchanges
  · rw [hsame]
    exact h

end Collection

namespace Backend

variable (engine : StoreEngine)

theorem Call.wellFormed_after {store : Store} {name : String} {call : Call}
    (hcall : call.WellFormed) (h : (store.collection name).WellFormed) :
    ((call.after engine store).collection name).WellFormed := by
  have heffect := call.effect engine store name
  generalize (call.after engine store).collection name = after at heffect ⊢
  cases heffect with
  | none => exact h
  | insert documents => exact h.insertAll hcall
  | update id changes returning => exact h.changed id hcall
  | createIndex field =>
    -- Indexes are no documents.
    unfold Collection.WellFormed
    rw [Collection.documents_addUnique]
    exact h
  | drop => exact fun document hmem => absurd hmem List.not_mem_nil

/-- **Documents stay well-formed** in every collection along a run of well-formed calls. -/
theorem wellFormed_reached {calls : List Call} (hcalls : ∀ call ∈ calls, call.WellFormed)
    (count : Nat) (name : String) : ((reached engine calls count).collection name).WellFormed := by
  refine Store.reached_induction (Call.after engine)
    (motive := fun store => (store.collection name).WellFormed) ?_ ?_ count
  · -- There are no documents before the first call.
    exact fun document hmem => absurd hmem List.not_mem_nil
  · intro earlier call hcall hearlier
    exact Call.wellFormed_after engine (hcalls call (List.mem_of_getElem? hcall)) hearlier

end Backend

end DocumentApi
