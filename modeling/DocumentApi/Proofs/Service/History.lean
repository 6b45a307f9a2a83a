import DocumentApi.Proofs.Service.Writes

/-!
# The history of a document

A document stays at the place where it was inserted, and changes there by the requests that are
about it and are carried out. What one event makes of it is `Event.revise`, and what the events
after some store make of it is its `history`.

* `Service.Event.documents_after` — an event revises every document in its place and adds documents
  at the end;
* `Service.documents_reached_add` — along a run the documents of a store are those of an earlier
  one, each with its history, and others behind them;
* `Service.nothingLost` — writes have their declared effect, and therefore nothing is lost.

The identifiers of a collection stay distinct along a run (`distinctIds_reached`), also when a
request changes a field inside an identifier. This is what makes the document that a request is
about the only one.
-/

namespace DocumentApi

namespace Service

open Operation

/-! ### Revisions -/

/-- The document that a request is about and the changes that it asks for, if it asks for any. -/
def requested? (schema : Schema) (request : Request) : Option (ObjectId × Fields Bson) :=
  if request.method = "PATCH" then do
    let id ← request.id?
    let fields ← request.body.bind Json.object?
    let changes ← (schema.changes fields).toOption
    return (id, changes)
  else if request.method = "DELETE" then request.id?.map fun id => (id, deactivation)
  else none

/-- What a request makes of a document of a collection. If it is answered as a success, it makes the
changes that it asks for in the document that it is about, and otherwise none. -/
def revise (schema : Schema) (request : Request) (response : Response) (name : String)
    (document : Document) : Document :=
  if schema.collection = name ∧ response.isSuccess = true then
    match requested? schema request with
    | some (id, changes) =>
      if document.id? = some id then document.applyChanges changes else document
    | none => document
  else document

section Request

variable {schema : Schema} {ids : Nat → ObjectId} {request : Request} {store after : Store}
  {response : Response} {name : String}

theorem revise_of_not (h : ¬ (schema.collection = name ∧ response.isSuccess = true)) :
    revise schema request response name = id := by
  funext document
  unfold revise
  rw [if_neg h, id]

theorem revise_of_requested?_eq_none (h : requested? schema request = none) :
    revise schema request response name = id := by
  funext document
  unfold revise
  rw [h, ite_self, id]

theorem revise_of_requested?_eq_some (hsuccess : response.isSuccess = true) {id : ObjectId}
    {changes : Fields Bson} (h : requested? schema request = some (id, changes)) :
    revise schema request response schema.collection = fun document =>
      if document.id? = some id then document.applyChanges changes else document := by
  funext document
  unfold revise
  rw [if_pos ⟨rfl, hsuccess⟩, h]

/-- Reads and insertions are about no document. -/
theorem requested?_eq_none (h : request.method = "GET" ∨ request.method = "POST") :
    requested? schema request = none := by
  unfold requested?
  -- Both methods fail the two tests that would make the request one about a document.
  rcases h with h | h <;> rw [h, if_neg (by decide), if_neg (by decide)]

/-- A deactivation is about the document that it names. -/
theorem requested?_of_delete (hmethod : request.method = "DELETE") {id : ObjectId}
    (hid : request.id? = some id) : requested? schema request = some (id, deactivation) := by
  unfold requested?
  rw [hmethod, if_neg (by decide), if_pos rfl, hid, Option.map_some]

/-- What a request asks for, if it is about a document. -/
theorem requested?_eq_some {id : ObjectId} {changes : Fields Bson}
    (h : requested? schema request = some (id, changes)) :
    request.id? = some id ∧
      ((request.method = "PATCH" ∧ ∃ fields, request.body = some (.obj fields) ∧
          schema.changes fields = .ok changes) ∨
        changes = deactivation) := by
  unfold requested? at h
  -- A request to change a document is one only if all three of its parts can be read.
  split at h
  · next hmethod =>
    obtain ⟨about, hid, h⟩ := Option.bind_eq_some_iff.mp h
    obtain ⟨fields, hfields, h⟩ := Option.bind_eq_some_iff.mp h
    obtain ⟨made, hmade, h⟩ := Option.bind_eq_some_iff.mp h
    obtain ⟨body, hbody, hobject⟩ := Option.bind_eq_some_iff.mp hfields
    cases h
    -- Only an object has fields to read the changes from.
    have hobj : body = .obj fields := by
      cases body with
      | obj others => exact congrArg Json.obj (Option.some.inj hobject)
      | _ => cases hobject
    have hchanges : schema.changes fields = .ok changes := by
      cases hresult : schema.changes fields with
      | ok made =>
        rw [hresult] at hmade
        exact congrArg Except.ok (Option.some.inj hmade)
      | error cause =>
        rw [hresult] at hmade
        cases hmade
    exact ⟨hid, Or.inl ⟨hmethod, fields, by rw [hbody, hobj], hchanges⟩⟩
  · -- Of the other methods only a deactivation is about a document.
    split at h
    · obtain ⟨other, hid, heq⟩ := Option.map_eq_some_iff.mp h
      obtain ⟨rfl, rfl⟩ := Prod.mk.inj heq
      exact ⟨hid, Or.inr rfl⟩
    · cases h

/-- **What is written** are the revised documents and others behind them. -/
theorem Written.eq_map_append {collection : Collection} {later : List Document}
    (hwritten : Written schema ids request collection response later)
    (hsuccess : response.isSuccess = true) :
    ∃ added, later
      = collection.documents.map (revise schema request response schema.collection) ++ added := by
  cases hwritten with
  | read hmethod =>
    -- A read adds nothing and is about no document.
    refine ⟨[], ?_⟩
    rw [revise_of_requested?_eq_none (requested?_eq_none (Or.inl hmethod)), List.map_id,
      List.append_nil]
  | @inserted objects documents hmethod =>
    -- An insertion is about no document either; its documents are what is added.
    refine ⟨documents, ?_⟩
    rw [revise_of_requested?_eq_none (requested?_eq_none (Or.inr hmethod)), List.map_id]
  | @changed fields changes id place document hmethod hid hbody hchanges hat =>
    -- The request has passed all checks, so what it asks for are the changes that were made.
    have hrequested : requested? schema request = some (id, changes) := by
      unfold requested?
      rw [if_pos hmethod, hid, hbody]
      simp only [Option.bind_eq_bind, Option.bind_some, Json.object?, hchanges]
      rfl
    refine ⟨[], ?_⟩
    rw [revise_of_requested?_eq_some hsuccess hrequested, List.append_nil]
    -- Every other document has another identifier and so is left as it is by the revision.
    exact hat.set_eq_map fun document => document.applyChanges changes
  | @deactivated id place document hmethod hid hat =>
    -- A deactivation is the change that it asks for.
    refine ⟨[], ?_⟩
    rw [revise_of_requested?_eq_some hsuccess (requested?_of_delete hmethod hid), List.append_nil,
      ← Document.applyChanges_deactivation]
    exact hat.set_eq_map fun document => document.applyChanges deactivation

/-- **One request** revises every document in its place, and adds documents at the end. -/
theorem Outcome.documents_after (houtcome : Outcome schema ids request store response after)
    (hdistinct : (store.collection schema.collection).DistinctIds) (name : String) :
    ∃ added, (after.collection name).documents
      = (store.collection name).documents.map (revise schema request response name) ++ added := by
  -- Successes have their declared effect, and failures leave a part of an insertion at most.
  by_cases hsuccess : response.isSuccess = true
  · have heffect := houtcome.declaredEffect hsuccess hdistinct
    -- Only the collection of the schema is touched.
    by_cases hname : name = schema.collection
    · subst hname
      exact heffect.written.eq_map_append hsuccess
    · refine ⟨[], ?_⟩
      rw [heffect.others name hname, revise_of_not (fun h => hname h.1.symm), List.map_id,
        List.append_nil]
  · -- A failure revises nothing, but may leave documents behind.
    rw [revise_of_not fun h => hsuccess h.2, List.map_id]
    rcases houtcome.failed_cases (Bool.eq_false_iff.mpr hsuccess) with
      ⟨hintact, -⟩ | ⟨-, documents, place, failure, -, hstopped⟩
    · -- Before an insertion nothing is written at all.
      exact ⟨[], by rw [hintact name, List.append_nil]⟩
    · -- A stopped insertion leaves those of its documents that come before the refused one.
      by_cases hname : name = schema.collection
      · subst hname
        exact ⟨documents.take place, by rw [hstopped.appended, Collection.append]⟩
      · exact ⟨[], by rw [hstopped.others name hname, List.append_nil]⟩

end Request

variable (engine : StoreEngine)

/-- What an event makes of a document of a collection of a store. -/
def Event.revise (store : Store) (name : String) : Event → Document → Document
  | .init _ => id
  | .request schema ids asked =>
    Service.revise schema asked (response engine schema ids asked store) name

/-- **One event** revises every document in its place, and adds documents at the end. -/
theorem Event.documents_after {store : Store}
    (hdistinct : ∀ name, (store.collection name).DistinctIds) (event : Event) (name : String) :
    ∃ added, ((event.after engine store).collection name).documents
      = (store.collection name).documents.map (event.revise engine store name) ++ added := by
  -- Indexes are created without looking at documents; a request is the case above.
  cases event with
  | init schema =>
    refine ⟨[], ?_⟩
    rw [documents_init, Event.revise, List.map_id, List.append_nil]
  | request schema ids request =>
    exact (outcome engine schema ids store request).documents_after (hdistinct _) name

/-! ### Distinct identifiers -/

/-- No event brings an identifier to a second place. -/
theorem Event.distinctIds_after {store : Store} {name : String}
    (h : (store.collection name).DistinctIds) (event : Event) :
    ((event.after engine store).collection name).DistinctIds :=
  event.collection_induction engine store h h.insertAll h.changed
    fun _ field hcollection => hcollection.addUnique field

/-- **Distinct identifiers** along a run. -/
theorem distinctIds_reached (events : List Event) (count : Nat) :
    ∀ name, ((reached engine events count).collection name).DistinctIds := by
  -- The empty collection has no identifiers, and no event brings one to a second place.
  intro name
  refine Store.reached_induction (Event.after engine)
    (motive := fun store => (store.collection name).DistinctIds) Collection.distinctIds_empty ?_
    count
  intro earlier event _ hearlier
  exact event.distinctIds_after engine hearlier

/-! ### Runs -/

/-- **The history** of a document: what so many events, from the one at `start` on, make of it. -/
def history (events : List Event) (name : String) (start : Nat) : Nat → Document → Document
  | 0, document => document
  | steps + 1, document =>
    match events[start + steps]? with
    | some event =>
      event.revise engine (reached engine events (start + steps)) name
        (history events name start steps document)
    | none => history events name start steps document

/-- **Along a run** every document stays in its place and has its history. -/
theorem documents_reached_add (events : List Event) (name : String) (start steps : Nat) :
    ∃ added, ((reached engine events (start + steps)).collection name).documents
      = ((reached engine events start).collection name).documents.map
          (history engine events name start steps) ++ added := by
  induction steps with
  -- No event has taken place yet, so that the history is empty.
  | zero => exact ⟨[], by rw [List.append_nil, Nat.add_zero]; exact (List.map_id _).symm⟩
  | succ steps ih =>
    obtain ⟨added, hadded⟩ := ih
    rw [← Nat.add_assoc]
    -- One event more, unless the run is over.
    cases hevent : events[start + steps]? with
    | none =>
      have hhistory : history engine events name start (steps + 1)
          = history engine events name start steps := by
        funext document
        rw [history, hevent]
      refine ⟨added, ?_⟩
      rw [reached, Store.reached_succ_of_none _ hevent, hhistory]
      exact hadded
    | some event =>
      -- What was added before is revised with the others, and stands behind them still.
      obtain ⟨more, hmore⟩ := event.documents_after engine
        (distinctIds_reached engine events (start + steps)) name
      have hhistory : history engine events name start (steps + 1)
          = event.revise engine (reached engine events (start + steps)) name
            ∘ history engine events name start steps := by
        funext document
        rw [history, hevent, Function.comp_apply]
      refine ⟨added.map (event.revise engine (reached engine events (start + steps)) name) ++ more,
        ?_⟩
      rw [reached_succ engine hevent, hmore, hadded, List.map_append, List.map_map,
        List.append_assoc, hhistory]

/-- A document is found at its place ever after, with its history. -/
theorem getElem?_documents_reached {events : List Event} {name : String} {count later : Nat}
    (hlater : count ≤ later) {place : Nat} {document : Document}
    (h : ((reached engine events count).collection name).documents[place]? = some document) :
    ((reached engine events later).collection name).documents[place]?
      = some (history engine events name count (later - count) document) := by
  -- The place is among those of the earlier documents and not among those that were added.
  obtain ⟨added, hadded⟩ := documents_reached_add engine events name count (later - count)
  rw [Nat.add_sub_cancel' hlater] at hadded
  obtain ⟨hlt, -⟩ := List.getElem?_eq_some_iff.mp h
  rw [hadded, List.getElem?_append_left (by rw [List.length_map]; exact hlt), List.getElem?_map, h,
    Option.map_some]

/-- **Nothing is lost** along a run of a service. -/
structure NothingLost (events : List Event) : Prop where
  /-- Every request that is answered as a success has its declared effect. -/
  declared : ∀ count schema ids request,
    (response engine schema ids request (reached engine events count)).isSuccess = true →
      DeclaredEffect schema ids request
        (response engine schema ids request (reached engine events count))
        (reached engine events count)
        ((Event.request schema ids request).after engine (reached engine events count))
  /-- Every document stays at its place, with the changes made in it since. -/
  kept : ∀ (count later : Nat) (name : String), count ≤ later → ∃ added,
    ((reached engine events later).collection name).documents
      = ((reached engine events count).collection name).documents.map
          (history engine events name count (later - count)) ++ added

/-- **Writes have their declared effect**, and nothing is lost, along every run of a service on the
empty store. -/
theorem nothingLost (events : List Event) : NothingLost engine events := by
  constructor
  · -- Every reachable store has distinct identifiers, which is what a declared effect needs.
    intro count schema ids request hsuccess
    exact (outcome engine schema ids (reached engine events count) request).declaredEffect hsuccess
      (distinctIds_reached engine events count schema.collection)
  · intro count later name hlater
    have hadded := documents_reached_add engine events name count (later - count)
    rw [Nat.add_sub_cancel' hlater] at hadded
    exact hadded

end Service

end DocumentApi
