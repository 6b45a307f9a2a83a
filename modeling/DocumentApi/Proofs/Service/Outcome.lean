import DocumentApi.Proofs.Operation.InMemory
import DocumentApi.Proofs.Store.Writes

/-!
# What a request comes to

A request on a store in memory comes to one of six things, and `Service.Outcome` lists them with
everything that is known of the response and of the store after it: it reads; it is refused before
anything is written; all documents of an insertion are inserted, or an insertion stops in the
middle; a document is changed; a document is deactivated.

* `Service.outcome` — every request comes to one of these. What is said of requests elsewhere is a
  case analysis over them;
* `Service.Outcome.collection_cases` — what becomes of one collection;
* `Service.Outcome.eq_of_notMem`, `Service.Outcome.collection_of_ne` — what stays as it is.

An insertion that was refused before anything is written is not answered like one that stops: its
response is neither a conflict nor the failure for a document without an identifier
(`Service.BeforeInsertion`).
-/

namespace DocumentApi

theorem Json.map_obj_filterMap_object? {items : List Json} (h : ∀ item ∈ items, item.isObject) :
    (items.filterMap object?).map obj = items := by
  induction items with
  | nil => rfl
  | cons item rest ih =>
    -- By induction on the items: an object keeps its place, and nothing else stands among them.
    rw [List.forall_mem_cons] at h
    cases item with
    | obj fields =>
      rw [List.filterMap_cons, object?]
      simp only
      rw [List.map_cons, ih h.2]
    | _ => cases h.1

/-! ### Checks of writes -/

namespace Request

theorem checkContentType_cases (request : Request) :
    request.checkContentType = .error .invalid ∨ request.checkContentType = .ok () := by
  unfold checkContentType
  -- The header is looked up first; without it there is no content type to accept.
  split
  · split
    · exact Or.inr rfl
    · exact Or.inl rfl
  · exact Or.inl rfl

theorem checkBody_cases (request : Request) :
    request.checkBody = .error .invalid ∨
      ∃ body, request.body = some body ∧ isAcceptable body ∧ request.checkBody = .ok body := by
  unfold checkBody
  cases request.body with
  | none => exact Or.inl rfl
  | some body =>
    simp only
    split
    · next hacceptable => exact Or.inr ⟨body, rfl, hacceptable, rfl⟩
    · exact Or.inl rfl

/-- **The check of a write** refuses it as malformed, or lets its body through. -/
theorem checkWrite_cases (request : Request) :
    request.checkWrite = .error .invalid ∨
      ∃ body, request.body = some body ∧ isAcceptable body ∧ request.checkWrite = .ok body := by
  unfold checkWrite
  rcases request.checkContentType_cases with htype | htype
  · rw [htype]
    exact Or.inl rfl
  · rw [htype]
    exact request.checkBody_cases

/-- **The check of an identifier** refuses its absence, or lets it through. -/
theorem checkId_cases (id : Option String) (error : Refusal) :
    checkId id error = .error error ∨ ∃ text, id = some text ∧ checkId id error = .ok text := by
  unfold checkId
  cases id with
  | none => exact Or.inl rfl
  | some text =>
    -- The empty text counts as no identifier.
    simp only
    split
    · exact Or.inl rfl
    · exact Or.inr ⟨text, rfl, rfl⟩

/-- Whether the body of a request is one object or a list of objects, and which these are. -/
def Carries (request : Request) (objects : List (Fields Json)) : Prop :=
  (∃ fields, request.body = some (.obj fields) ∧ objects = [fields]) ∨
    request.body = some (.arr (objects.map .obj))

/-- No object of a body that passes the check is overlooked. -/
theorem carries_objectsOf {request : Request} {body : Json} (hbody : request.body = some body)
    (hacceptable : isAcceptable body) : request.Carries (Operation.objectsOf body) := by
  -- Only objects and lists of objects are acceptable.
  cases body with
  | obj fields => exact Or.inl ⟨fields, hbody, rfl⟩
  | arr items =>
    rw [isAcceptable, Bool.and_eq_true, List.all_eq_true] at hacceptable
    refine Or.inr ?_
    rw [hbody, Operation.objectsOf, Json.map_obj_filterMap_object? hacceptable.2]
  | _ => cases hacceptable

/-- The identifier that a request is about, if it names one that is well-formed. -/
def id? (request : Request) : Option ObjectId :=
  (request.param? "id").bind ObjectId.ofHex?

/-- The text of an identifier that a request names passes the check. -/
theorem checkId_of_id? {request : Request} {id : ObjectId} (hid : request.id? = some id)
    (error : Refusal) : ∃ text, ObjectId.ofHex? text = some id ∧
      checkId (request.param? "id") error = .ok text := by
  obtain ⟨text, hparam, htext⟩ := Option.bind_eq_some_iff.mp hid
  -- The empty text is no identifier, so the check cannot have refused it for that.
  have hne : text ≠ "" := by
    have hempty : ObjectId.ofHex? "" = none := by decide
    rintro rfl
    rw [hempty] at htext
    cases htext
  refine ⟨text, htext, ?_⟩
  rw [hparam, checkId, if_neg hne]

end Request

namespace Service

open Operation

theorem isSuccess_of_status {response : Response}
    (h : response.status = Status.ok ∨ response.status = Status.created) :
    response.isSuccess = true := by
  unfold Response.isSuccess
  rcases h with h | h <;> rw [h] <;> rfl

/-! ### Responses before an insertion -/

/-- Whether a response is neither that of an insertion which met a duplicate nor that of one which
met a document without an identifier. -/
def BeforeInsertion (response : Response) : Prop :=
  response.status ≠ Status.conflict ∧ ∀ detail, response ≠ failed (.invalidDocument detail)

theorem beforeInsertion_of_status {response : Response}
    (hconflict : response.status ≠ Status.conflict)
    (hserverError : response.status ≠ Status.serverError) : BeforeInsertion response :=
  ⟨hconflict, fun _ h => hserverError (congrArg Response.status h)⟩

theorem beforeInsertion_invalid : BeforeInsertion Refusal.invalid.toResponse :=
  beforeInsertion_of_status (by decide) (by decide)

private theorem serialization_append_ne (cause detail : String) :
    "Serialization error: " ++ cause ≠ "Invalid document: " ++ detail := by
  intro h
  -- The two texts differ in their first letters.
  have hletters := congrArg String.toList h
  rw [String.toList_append, String.toList_append] at hletters
  have hfirst := congrArg List.head? hletters
  rw [List.head?_append_of_ne_nil _ (by simp), List.head?_append_of_ne_nil _ (by simp)] at hfirst
  simp at hfirst

/-- A value without a stored form is not answered like a document without an identifier: the two
failures have the same status and differ in their messages. -/
theorem failed_serialization_ne (cause detail : String) :
    failed (.serialization cause) ≠ failed (.invalidDocument detail) := by
  intro h
  simp only [failed, Refusal.ofStoreError, Refusal.toResponse, Refusal.toJson, Response.withBody,
    Option.map_some, Option.toList_some, Response.mk.injEq, Option.some.injEq, Json.obj.injEq,
    List.cons.injEq, Prod.mk.injEq, Json.str.injEq, true_and, and_true] at h
  exact serialization_append_ne cause detail h

/-- A body that is refused is not answered as a refused insertion. -/
theorem beforeInsertion_bodyError (cause : BodyError) (collection : String) :
    BeforeInsertion (failed (cause.toStoreError collection)) := by
  -- A value without a stored form shares the status of a missing identifier; all other reasons have
  -- a status of their own.
  cases cause with
  | notStorable cause =>
    refine ⟨?_, failed_serialization_ne cause.message⟩
    change Status.serverError ≠ Status.conflict
    decide
  | _ =>
    refine beforeInsertion_of_status ?_ ?_
    · change Status.unprocessable ≠ Status.conflict
      decide
    · change Status.unprocessable ≠ Status.serverError
      decide

/-! ### Outcomes -/

/-- What an answered request comes to, with its response and the store after it. -/
inductive Outcome (schema : Schema) (ids : Nat → ObjectId) (request : Request) (store : Store) :
    Response → Store → Prop
  /-- It reads, and perhaps fails. -/
  | read {response : Response} (hmethod : request.method = "GET") :
      Outcome schema ids request store response store
  /-- It is refused, and nothing is written. -/
  | refused {response : Response} (hfailed : response.isSuccess = false)
      (hpost : request.method = "POST" → BeforeInsertion response) :
      Outcome schema ids request store response store
  /-- It inserts all documents. -/
  | inserted {objects : List (Fields Json)} {documents : List Document} {after : Store}
      (hmethod : request.method = "POST") (hobjects : request.Carries objects)
      (hdocuments : prepareAll schema ids 0 objects = .ok documents)
      (hinsert : store.insertAll documents schema.collection = (.ok (), after)) :
      Outcome schema ids request store
        (.withBody Status.created (Envelope.ofList documents).normalize) after
  /-- It inserts the documents before one that is refused. -/
  | stopped {objects : List (Fields Json)} {documents : List Document} {failure : StoreError}
      {after : Store} (hmethod : request.method = "POST") (hobjects : request.Carries objects)
      (hdocuments : prepareAll schema ids 0 objects = .ok documents)
      (hinsert : store.insertAll documents schema.collection = (.error failure, after)) :
      Outcome schema ids request store (failed failure) after
  /-- It changes a document. -/
  | changed {fields : Fields Json} {changes : Fields Bson} {id : ObjectId} {document : Document}
      {after : Store} (hmethod : request.method = "PATCH") (hid : request.id? = some id)
      (hbody : request.body = some (.obj fields)) (hchanges : schema.changes fields = .ok changes)
      (hupdate : store.update id changes .after schema.collection
        = (.ok (some document), after)) :
      Outcome schema ids request store (.withBody Status.ok document.normalize) after
  /-- It deactivates a document. -/
  | deactivated {id : ObjectId} {previous : Document} {after : Store}
      (hmethod : request.method = "DELETE") (hid : request.id? = some id)
      (hupdate : store.update id deactivation .before schema.collection
        = (.ok (some previous), after)) :
      Outcome schema ids request store
        (.withBody Status.ok (deactivated (previous.id?.getD id))) after

/-- The methods of requests that may write. -/
def writingMethods : List String := ["POST", "PATCH", "DELETE"]

section Unchanged

variable {schema : Schema} {ids : Nat → ObjectId} {request : Request} {store after : Store}
  {response : Response}

/-- A request of another method writes nothing. -/
theorem Outcome.eq_of_notMem (houtcome : Outcome schema ids request store response after)
    (hmethod : request.method ∉ writingMethods) : after = store := by
  -- Reads and refusals leave the store as it is, and the four other ways out need a writing method.
  cases houtcome with
  | read => rfl
  | refused => rfl
  | inserted hpost => exact absurd (by rw [hpost]; decide) hmethod
  | stopped hpost => exact absurd (by rw [hpost]; decide) hmethod
  | changed hpatch => exact absurd (by rw [hpatch]; decide) hmethod
  | deactivated hdelete => exact absurd (by rw [hdelete]; decide) hmethod

/-- **What becomes of one collection.** It stays as it is, unless it is that of the request and
documents are inserted into it or a change is made in it. -/
theorem Outcome.collection_cases (houtcome : Outcome schema ids request store response after)
    (name : String) :
    after.collection name = store.collection name ∨ (schema.collection = name ∧
      ((∃ documents, after.collection name
          = ((store.collection name).insertAll name documents).2) ∨
        ∃ id changes, after.collection name
          = (store.collection name).changed name id changes)) := by
  -- An insertion appends to the collection of the schema, however far it gets.
  have hinserted : ∀ {documents : List Document} {outcome : Except StoreError Unit},
      store.insertAll documents schema.collection = (outcome, after) →
        after.collection name = if schema.collection = name
          then ((store.collection schema.collection).insertAll schema.collection documents).2
          else store.collection name := by
    intro documents outcome hinsert
    rw [← Store.collection_insertAll, hinsert]
  -- A change that fails or finds no document leaves the collection as `changed` does too.
  have hchanged : ∀ {id : ObjectId} {changes : Fields Bson} {returning : Returning}
      {outcome : Except StoreError (Option Document)},
      store.update id changes returning schema.collection = (outcome, after) →
        after.collection name = if schema.collection = name
          then (store.collection schema.collection).changed schema.collection id changes
          else store.collection name := by
    intro id changes returning outcome hupdate
    rw [← Store.collection_update store schema.collection name id changes returning, hupdate]
  by_cases hname : schema.collection = name
  · subst hname
    simp only [if_true] at hinserted hchanged
    -- Four of the six ways out write this collection.
    cases houtcome with
    | read => exact Or.inl rfl
    | refused => exact Or.inl rfl
    | inserted _ _ _ hinsert => exact Or.inr ⟨rfl, Or.inl ⟨_, hinserted hinsert⟩⟩
    | stopped _ _ _ hinsert => exact Or.inr ⟨rfl, Or.inl ⟨_, hinserted hinsert⟩⟩
    | changed _ _ _ _ hupdate => exact Or.inr ⟨rfl, Or.inr ⟨_, _, hchanged hupdate⟩⟩
    | deactivated _ _ hupdate => exact Or.inr ⟨rfl, Or.inr ⟨_, _, hchanged hupdate⟩⟩
  · -- The operations of the store are about the collection of the schema.
    simp only [if_neg hname] at hinserted hchanged
    refine Or.inl ?_
    cases houtcome with
    | read => rfl
    | refused => rfl
    | inserted _ _ _ hinsert => exact hinserted hinsert
    | stopped _ _ _ hinsert => exact hinserted hinsert
    | changed _ _ _ _ hupdate => exact hchanged hupdate
    | deactivated _ _ hupdate => exact hchanged hupdate

/-- A request leaves all collections but its own as they are. -/
theorem Outcome.collection_of_ne (houtcome : Outcome schema ids request store response after)
    {name : String} (hname : schema.collection ≠ name) :
    after.collection name = store.collection name :=
  (houtcome.collection_cases name).resolve_right fun h => hname h.1

end Unchanged

variable (engine : StoreEngine) (schema : Schema) (ids : Nat → ObjectId) (store : Store)
  {request : Request}

theorem outcome_create (hmethod : request.method = "POST") :
    Outcome schema ids request store ((create (.inMemory engine) schema ids request).run store).1
      ((create (.inMemory engine) schema ids request).run store).2 := by
  rw [create_run]
  -- The check refuses the request as malformed or lets its body through.
  rcases request.checkWrite_cases with hcheck | ⟨body, hbody, hacceptable, hcheck⟩
  · rw [hcheck]
    exact .refused rfl fun _ => beforeInsertion_invalid
  · have hobjects := Request.carries_objectsOf hbody hacceptable
    rw [hcheck]
    simp only
    cases hdocuments : prepareAll schema ids 0 (objectsOf body) with
    -- A body that is refused keeps the others from being inserted, too.
    | error cause =>
      exact .refused (isSuccess_failed _) fun _ => beforeInsertion_bodyError cause _
    | ok documents =>
      simp only
      -- Either all documents are inserted, or those before the first duplicate.
      rcases hinsert : store.insertAll documents schema.collection with ⟨failure | _, after⟩
      · exact .stopped hmethod hobjects hdocuments hinsert
      · exact .inserted hmethod hobjects hdocuments hinsert

theorem outcome_change (hmethod : request.method = "PATCH") :
    Outcome schema ids request store
      ((change (.inMemory engine) schema request (request.param? "id")).run store).1
      ((change (.inMemory engine) schema request (request.param? "id")).run store).2 := by
  -- A refusal of a change is never mistaken for one of an insertion.
  have hrefused : ∀ response : Response, response.isSuccess = false →
      Outcome schema ids request store response store :=
    fun response hfailed => .refused hfailed fun hpost => absurd hpost (by simp [hmethod])
  rw [change_run]
  -- The checks are made in the order of the program, and every refusal leaves the store as it is.
  rcases request.checkWrite_cases with hcheck | ⟨body, hbody, -, hcheck⟩
  · rw [hcheck]
    exact hrefused _ rfl
  · rw [hcheck]
    simp only
    rcases Request.checkId_cases (request.param? "id") .invalid with hid | ⟨text, htext, hid⟩
    · rw [hid]
      exact hrefused _ rfl
    · rw [hid]
      simp only
      -- A list of objects passes the check, but makes no change.
      cases body with
      | obj fields =>
        simp only [Json.object?]
        cases hchanges : schema.changes fields with
        | error cause => exact hrefused _ (isSuccess_failed _)
        | ok changes =>
          simp only
          split
          · exact hrefused _ rfl
          · cases hoid : ObjectId.ofHex? text with
            | none => exact hrefused _ (isSuccess_failed _)
            | some id =>
              simp only
              -- The identifier that the request names is the one that has been read.
              have hid : request.id? = some id := by
                rw [Request.id?, htext, Option.bind_some, hoid]
              rcases hupdate : store.update id changes .after schema.collection with
                ⟨failure | _ | document, after⟩
              · -- A failed update leaves the store as it is, and so does one without a document.
                rw [Store.update_snd_of_ne store _ hupdate (by simp)]
                exact hrefused _ (isSuccess_failed _)
              · rw [Store.update_snd_of_ne store _ hupdate (by simp)]
                exact hrefused _ rfl
              · exact .changed hmethod hid hbody hchanges hupdate
      | _ => exact hrefused _ rfl

theorem outcome_deactivate (hmethod : request.method = "DELETE") :
    Outcome schema ids request store
      ((deactivate (.inMemory engine) schema (request.param? "id")).run store).1
      ((deactivate (.inMemory engine) schema (request.param? "id")).run store).2 := by
  have hrefused : ∀ response : Response, response.isSuccess = false →
      Outcome schema ids request store response store :=
    fun response hfailed => .refused hfailed fun hpost => absurd hpost (by simp [hmethod])
  rw [deactivate_run]
  -- Without the check of a body, only the identifier can be refused.
  rcases Request.checkId_cases (request.param? "id") .missing with hid | ⟨text, htext, hid⟩
  · rw [hid]
    exact hrefused _ rfl
  · rw [hid]
    simp only
    cases hoid : ObjectId.ofHex? text with
    | none => exact hrefused _ (isSuccess_failed _)
    | some id =>
      simp only
      have hid : request.id? = some id := by
        rw [Request.id?, htext, Option.bind_some, hoid]
      rcases hupdate : store.update id deactivation .before schema.collection with
        ⟨failure | _ | previous, after⟩
      · -- As for a change, a failed update and a missing document leave the store as it is.
        rw [Store.update_snd_of_ne store _ hupdate (by simp)]
        exact hrefused _ (isSuccess_failed _)
      · rw [Store.update_snd_of_ne store _ hupdate (by simp)]
        exact hrefused _ rfl
      · exact .deactivated hmethod hid hupdate

/-- **What a request comes to.** -/
theorem outcome (request : Request) :
    Outcome schema ids request store
      ((answer (.inMemory engine) schema ids request).run store).1
      ((answer (.inMemory engine) schema ids request).run store).2 := by
  unfold answer
  split
  · next hmethod =>
    split
    · rw [read_run]
      -- Whatever a read comes to, the store stays as it is.
      repeat' split
      all_goals exact .read hmethod
    · rw [list_run]
      exact .read hmethod
  · next hmethod => exact outcome_create engine schema ids store hmethod
  · next hmethod => exact outcome_change engine schema ids store hmethod
  · next hmethod => exact outcome_deactivate engine schema ids store hmethod
  · -- A method that is not known is refused, and it is not that of an insertion.
    next hpost _ _ => exact .refused rfl fun h => absurd h hpost

end Service

end DocumentApi
