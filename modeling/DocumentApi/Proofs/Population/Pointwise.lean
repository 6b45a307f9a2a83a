import DocumentApi.Proofs.Backend.InMemory
import Mathlib.Data.List.Basic

/-!
# Resolving documents one by one

References are resolved in a whole list of documents at once: the identifiers of all of them are
collected, the documents behind them are fetched together, and the nodes below are resolved in what
was fetched before it takes its place. On a store in memory the result for one document does not
depend on the others:

* `perform_resolve` — resolving a list of documents never fails, leaves the store as it is, and
  gives for each document what `resolveIn` makes of it alone.

`resolveIn` looks every identifier up among *all* documents of the target collection, the nodes
below being resolved in each of them. The batch sees only those that were asked for, after they have
been resolved, and resolving can change the identifier of a document, if the schema declares the
identifier itself as a reference. What saves the agreement is `id?_resolveIn`: resolving may take
the identifier of a document away, but never gives it another one, so that every document that the
batch could find under an identifier is among those fetched for it.
-/

namespace DocumentApi

namespace Population

mutual

/-- A document with one node resolved in it. -/
def resolveNodeIn (store : Store) (schema : Schema) : Node → Document → Document
  | .mk path children, document =>
    match schema.reference? path with
    | none => document
    | some target =>
      substitute ((store.collection target.collection).documents.map
        (resolveIn store target children)) path document

/-- A document with nodes resolved in it, one after another. -/
def resolveIn (store : Store) (schema : Schema) : List Node → Document → Document
  | [], document => document
  | node :: rest, document =>
    resolveIn store schema rest (resolveNodeIn store schema node document)

end

/-! ### The identifiers that documents refer to -/

theorem mem_insertId {id other : ObjectId} {ids : List ObjectId} :
    id ∈ insertId other ids ↔ id = other ∨ id ∈ ids := by
  -- The identifier is put in its place, unless it is there already.
  induction ids with
  | nil => simp [insertId]
  | cons first rest ih =>
    rw [insertId]
    split
    · exact List.mem_cons
    · split
      · next heq =>
        rw [List.mem_cons, heq, or_self_left]
      · rw [List.mem_cons, ih, List.mem_cons, or_left_comm]

private theorem mem_foldl_insertId {id : ObjectId} {found ids : List ObjectId} :
    id ∈ found.foldl (fun ids id => insertId id ids) ids ↔ id ∈ found ∨ id ∈ ids := by
  induction found generalizing ids with
  | nil => simp
  | cons first rest ih =>
    rw [List.foldl_cons, ih, mem_insertId, List.mem_cons, or_left_comm, or_assoc]

/-- The identifiers collected from documents are those in the values of the field. -/
theorem mem_referencedIds {documents : List Document} {path : String} {id : ObjectId} :
    id ∈ referencedIds documents path ↔
      ∃ document ∈ documents, ∃ value, Fields.get? document path = some value ∧
        id ∈ idsIn value := by
  unfold referencedIds
  -- Documents without the field refer to nothing by it.
  rw [mem_foldl_insertId, or_iff_left List.not_mem_nil, List.mem_flatMap]
  refine exists_congr fun document => and_congr_right fun _ => ?_
  cases hvalue : Fields.get? document path with
  | none => simp
  | some value => simp

/-! ### Replacing identifiers -/

/-- What becomes of a value depends on the documents found for its own identifiers only. -/
theorem resolveValue_congr {fetched others : List Document} {value : Bson}
    (h : ∀ id ∈ idsIn value, document? fetched id = document? others id) :
    resolveValue fetched value = resolveValue others value := by
  cases value with
  | objectId id =>
    rw [resolveValue, resolveValue, h id List.mem_cons_self]
  | array items =>
    rw [resolveValue, resolveValue]
    congr 1
    -- Of the items only identifiers are looked up, and those are collected.
    refine List.filterMap_congr (fun item hitem => ?_)
    cases item with
    | objectId id =>
      have hid : id ∈ idsIn (.array items) := List.mem_filterMap.mpr ⟨_, hitem, rfl⟩
      rw [resolveItem, resolveItem, h id hid]
    | _ => rfl
  | _ => rfl

/-- A value without identifiers stays as it is. -/
theorem resolveValue_of_idsIn_eq_nil {fetched : List Document} {value : Bson}
    (h : idsIn value = []) : resolveValue fetched value = value := by
  -- By the kinds of values; a list stays as it is if none of its items is looked up.
  cases value with
  | objectId id => exact absurd h (List.cons_ne_nil _ _)
  | array items =>
    have hsome : items.filterMap (resolveItem fetched) = items.filterMap some := by
      refine List.filterMap_congr (fun item hitem => ?_)
      cases item with
      | objectId id =>
        exact absurd (List.filterMap_eq_nil_iff.mp h _ hitem) (by simp [Bson.objectId?])
      | _ => rfl
    rw [resolveValue, hsome, List.filterMap_some]
  | _ => rfl

/-- No value becomes an identifier that was not one before. -/
theorem resolveValue_ne_objectId (fetched : List Document) (value : Bson) (id : ObjectId) :
    resolveValue fetched value ≠ .objectId id := by
  cases value with
  | objectId other =>
    rw [resolveValue]
    cases document? fetched other <;> simp
  | _ => simp [resolveValue]

/-- Replacing references changes the value of the one field. -/
theorem get?_substitute_of_ne {path key : String} (h : path ≠ key) (fetched : List Document)
    (document : Document) :
    Fields.get? (substitute fetched path document) key = Fields.get? document key := by
  unfold substitute
  -- Only the field of the path is given another value.
  cases hvalue : Fields.get? document path with
  | none => rfl
  | some value => exact Fields.get?_insert_of_ne h document _

/-- Replacing references takes the identifier of a document away or leaves it. -/
theorem id?_substitute {fetched : List Document} {path : String} {document : Document}
    {id : ObjectId} (h : (substitute fetched path document).id? = some id) :
    document.id? = some id := by
  by_cases hpath : path = Schema.idField
  · -- The reference is the identifier itself: what takes its place is no identifier.
    subst hpath
    unfold substitute Document.id? at h
    cases hvalue : Fields.get? document Schema.idField with
    | none =>
      rw [hvalue] at h
      simp only [hvalue, Option.bind_none] at h
      exact absurd h (by simp)
    | some value =>
      simp only [hvalue, Fields.get?_insert_self, Option.bind_some] at h
      cases hresolved : resolveValue fetched value with
      | objectId other => exact absurd hresolved (resolveValue_ne_objectId fetched value other)
      | _ => simp [hresolved, Bson.objectId?] at h
  · unfold Document.id? at h ⊢
    rw [get?_substitute_of_ne hpath] at h
    exact h

/-- Resolving a node takes the identifier of a document away or leaves it. -/
theorem id?_resolveNodeIn {store : Store} {schema : Schema} (node : Node) {document : Document}
    {id : ObjectId} (h : (resolveNodeIn store schema node document).id? = some id) :
    document.id? = some id := by
  match node with
  | .mk path children =>
    rw [resolveNodeIn] at h
    -- A node of a field that is no reference changes nothing.
    split at h
    · exact h
    · exact id?_substitute h

/-- Resolving takes the identifier of a document away or leaves it. -/
theorem id?_resolveIn {store : Store} {schema : Schema} {nodes : List Node} {document : Document}
    {id : ObjectId} (h : (resolveIn store schema nodes document).id? = some id) :
    document.id? = some id := by
  induction nodes generalizing document with
  | nil =>
    rw [resolveIn] at h
    exact h
  -- Node by node, from the last result back.
  | cons node rest ih =>
    rw [resolveIn] at h
    exact id?_resolveNodeIn node (ih h)

/-! ### A batch against the whole collection -/

/-- What a batch finds under one of its identifiers is what the whole collection has there, when
both have been resolved. -/
theorem document?_fetchAll {store : Store} {name : String} {ids : List ObjectId} {id : ObjectId}
    (hid : id ∈ ids) {resolved : Document → Document}
    (h : ∀ document, (resolved document).id? = some id → document.id? = some id) :
    document? ((store.fetchAll ids name).map resolved) id
      = document? ((store.collection name).documents.map resolved) id := by
  unfold document? Store.fetchAll
  rw [← List.map_reverse, ← List.map_reverse, ← List.filter_reverse, List.find?_map, List.find?_map,
    List.find?_filter]
  congr 2
  funext document
  rw [Function.comp_apply]
  -- A document that is found in the collection was fetched, having had the identifier before.
  by_cases hfound : (resolved document).id? == some id
  · rw [beq_iff_eq] at hfound
    simp [h document hfound, hid, hfound]
  · simp [hfound]

/-- Replacing references in a batch and replacing them in one document agree. -/
theorem substitute_fetchAll {store : Store} {name path : String} {documents : List Document}
    {document : Document} (hmem : document ∈ documents) {resolved : Document → Document}
    (h : ∀ id document, (resolved document).id? = some id → document.id? = some id) :
    substitute ((store.fetchAll (referencedIds documents path) name).map resolved) path document
      = substitute ((store.collection name).documents.map resolved) path document := by
  unfold substitute
  -- The identifiers in the value were collected, so that the batch finds what the collection has.
  cases hvalue : Fields.get? document path with
  | none => rfl
  | some value =>
    have hsame : resolveValue ((store.fetchAll (referencedIds documents path) name).map resolved)
          value
        = resolveValue ((store.collection name).documents.map resolved) value := by
      refine resolveValue_congr (fun id hid => document?_fetchAll ?_ (h id))
      exact mem_referencedIds.mpr ⟨document, hmem, value, hvalue, hid⟩
    simp only [hsame]

/-- Without identifiers in the batch there is nothing to replace. -/
theorem substitute_of_referencedIds_eq_nil {path : String} {documents : List Document}
    (hnil : referencedIds documents path = []) {document : Document} (hmem : document ∈ documents)
    (fetched : List Document) : substitute fetched path document = document := by
  unfold substitute
  cases hvalue : Fields.get? document path with
  | none => rfl
  | some value =>
    -- An identifier in the value would have been collected.
    have hids : idsIn value = [] := by
      rw [List.eq_nil_iff_forall_not_mem]
      intro id hid
      have hin := mem_referencedIds.mpr ⟨document, hmem, value, hvalue, hid⟩
      rw [hnil] at hin
      exact List.not_mem_nil hin
    simp only [resolveValue_of_idsIn_eq_nil hids]
    exact Fields.insert_of_get?_eq_some hvalue

variable (engine : StoreEngine) (store : Store)

mutual

/-- Resolving one node in a list of documents. -/
theorem perform_resolveNode (schema : Schema) (node : Node) (documents : List Document) :
    StoreM.perform (resolveNode (.inMemory engine) schema node documents) store
      = (.ok (documents.map (resolveNodeIn store schema node)), store) := by
  match node with
  | .mk path children =>
    unfold resolveNode
    -- By whether the field is a reference.
    cases hreference : schema.reference? path with
    | none =>
      have hsame : documents.map (resolveNodeIn store schema (.mk path children)) = documents := by
        rw [List.map_congr_left (g := id), List.map_id]
        intro document _
        rw [resolveNodeIn, hreference]
        rfl
      rw [hsame]
      rfl
    | some target =>
      have hnode : ∀ document, resolveNodeIn store schema (.mk path children) document
          = substitute ((store.collection target.collection).documents.map
              (resolveIn store target children)) path document := by
        intro document
        rw [resolveNodeIn, hreference]
      simp only
      -- Nothing is fetched if no document refers to any.
      by_cases hnil : referencedIds documents path = []
      · rw [if_pos (List.isEmpty_iff.mpr hnil)]
        have hsame :
            documents.map (resolveNodeIn store schema (.mk path children)) = documents := by
          rw [List.map_congr_left (g := id), List.map_id]
          intro document hmem
          rw [hnode, substitute_of_referencedIds_eq_nil hnil hmem]
          rfl
        rw [hsame]
        rfl
      · rw [if_neg (by simpa using hnil), StoreM.perform_bind]
        simp only [StoreM.perform_fetchAll]
        rw [StoreM.perform_bind, perform_resolve target children]
        simp only [StoreM.perform_pure]
        -- The resolved batch serves each document as the whole collection does.
        rw [List.map_congr_left]
        intro document hmem
        rw [hnode]
        exact substitute_fetchAll hmem (fun id document h => id?_resolveIn h)

/-- **Batches are pointwise.** Resolving a list of documents never fails, leaves the store as it is,
and makes of each document what is made of it alone. -/
theorem perform_resolve (schema : Schema) (nodes : List Node) (documents : List Document) :
    StoreM.perform (resolve (.inMemory engine) schema nodes documents) store
      = (.ok (documents.map (resolveIn store schema nodes)), store) := by
  match nodes with
  | [] =>
    -- Without nodes nothing is resolved.
    unfold resolve
    rw [StoreM.perform_pure, List.map_congr_left (g := id), List.map_id]
    intro document _
    rw [resolveIn]
    rfl
  | node :: rest =>
    unfold resolve
    -- The first node is resolved in all documents before the next one is.
    rw [StoreM.perform_bind, perform_resolveNode schema node documents]
    simp only
    rw [perform_resolve schema rest, List.map_map]
    rfl

end

end Population

end DocumentApi
