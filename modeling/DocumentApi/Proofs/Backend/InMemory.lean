import DocumentApi.Operation

/-!
# Computations on a store

What the backend in memory does is a computation that reads and changes a `Store` and may fail. Here
such computations are read as plain functions on stores: `StoreM.perform` gives the outcome and the
store after it, with one equation for each way in which computations are put together. Everything
about requests on a store in memory rests on these equations and never on the monads.
-/

namespace DocumentApi

/-- The outcome of a computation on a store, and the store after it. -/
def StoreM.perform {ε α : Type} (operation : ExceptT ε StoreM α) (store : Store) :
    Except ε α × Store :=
  (operation.run.run store).run

namespace StoreM

variable {ε α β : Type}

@[simp] theorem perform_pure (value : α) (store : Store) :
    perform (pure value : ExceptT ε StoreM α) store = (.ok value, store) := rfl

/-- One computation after another: the second one starts from the store that the first one leaves,
and a failure of the first one leaves the store as it is then. -/
theorem perform_bind (operation : ExceptT ε StoreM α) (next : α → ExceptT ε StoreM β)
    (store : Store) :
    perform (operation >>= next) store =
      match perform operation store with
      | (.ok value, store) => perform (next value) store
      | (.error failure, store) => (.error failure, store) := by
  unfold perform
  rw [ExceptT.run_bind, StateT.run_bind]
  change (match StateT.run (ExceptT.run operation) store with | (outcome, after) => _) = _
  -- What comes next depends on the outcome of the first computation only.
  rcases StateT.run (ExceptT.run operation) store with ⟨outcome, after⟩
  cases outcome <;> rfl

@[simp] theorem perform_check (result : Except Refusal α) (store : Store) :
    perform (Operation.check result) store = (result, store) := rfl

/-- The failures of an operation of the store become refusals. -/
theorem perform_onStore (operation : ExceptT StoreError StoreM α) (store : Store) :
    perform (Operation.onStore operation) store =
      match perform operation store with
      | (.ok value, store) => (.ok value, store)
      | (.error failure, store) => (.error (Refusal.ofStoreError failure), store) := by
  unfold perform Operation.onStore
  rw [ExceptT.run_adapt, StateT.run_map]
  change (match StateT.run (ExceptT.run operation) store with | (outcome, after) => _) = _
  -- A failure is renamed on the way out, and what it left behind stays.
  rcases StateT.run (ExceptT.run operation) store with ⟨outcome, after⟩
  cases outcome <;> rfl

/-! ### The operations of the backend -/

section Operations

variable (engine : StoreEngine) (store : Store) (name : String)

@[simp] theorem perform_fetch (id : ObjectId) (projection : Projection) :
    perform ((Backend.inMemory engine).fetch id projection name) store
      = (.ok (store.fetch id projection name), store) := rfl

@[simp] theorem perform_select (selection : Selection) :
    perform ((Backend.inMemory engine).select selection name) store
      = (store.select engine selection name, store) := rfl

@[simp] theorem perform_count (criteria : Criteria) :
    perform ((Backend.inMemory engine).count criteria name) store
      = (store.count engine criteria name, store) := rfl

@[simp] theorem perform_fetchAll (ids : List ObjectId) :
    perform ((Backend.inMemory engine).fetchAll ids name) store
      = (.ok (store.fetchAll ids name), store) := rfl

@[simp] theorem perform_insert (documents : List Document) :
    perform ((Backend.inMemory engine).insert documents name) store
      = store.insertAll documents name := rfl

@[simp] theorem perform_update (id : ObjectId) (changes : Fields Bson) (returning : Returning) :
    perform ((Backend.inMemory engine).update id changes returning name) store
      = store.update id changes returning name := rfl

@[simp] theorem perform_createIndex (field : String) (unique : Bool) :
    perform ((Backend.inMemory engine).createIndex name field unique) store
      = (.ok (), store.createIndex name field unique) := rfl

end Operations

end StoreM

/-- A refused operation answers with its refusal. -/
theorem Operation.run_respond (operation : ExceptT Refusal StoreM Response) (store : Store) :
    (Operation.respond operation).run store =
      match StoreM.perform operation store with
      | (.ok response, store) => (response, store)
      | (.error refusal, store) => (refusal.toResponse, store) := by
  unfold Operation.respond StoreM.perform
  rw [StateT.run_bind]
  change (match StateT.run (ExceptT.run operation) store with | (outcome, after) => _) = _
  rcases StateT.run (ExceptT.run operation) store with ⟨outcome, after⟩
  cases outcome <;> rfl

end DocumentApi
