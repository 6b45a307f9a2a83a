import DocumentApi.Proofs.Service.Run
import DocumentApi.Proofs.Store.Identity

/-!
# Permanent identifiers

A document keeps its identifier for good, and is found under it, unless a request changes a field
*inside* the identifier:

* `Service.identityPermanent_iff` — along a run of a service identity is permanent if and only if no
  request to change was carried out whose body names a path into the identifier.

A body may not change the identifier, and `Schema.changes` drops the field of this name. A path such
as `_id.x` is another name, and the change it makes puts a document in the place of the identifier
(`Document.id?_applyChanges_eq_none`). The document then has no identifier, so that it is found
under none (`Service.not_identityPermanent`).

The invariant is that all collections are `Collection.Identified`; what a step does to the
identifiers of a collection is to add some at the end (`Event.identified_after`).
-/

namespace DocumentApi

/-! ### Identifiers in responses -/

theorem Bson.get?_normalizeFields (fields : Fields Bson) {name : String}
    (h : name ≠ Schema.versionField) :
    Fields.get? (normalizeFields fields) name = (Fields.get? fields name).map normalize := by
  induction fields with
  | nil => rfl
  | cons field rest ih =>
    obtain ⟨key, value⟩ := field
    -- By induction on the fields, each of which is shown under its name or left out.
    rw [normalizeFields, Fields.get?_cons]
    -- A field that is left out is not the one that is looked for.
    by_cases hkey : key = Schema.versionField
    · have hne : key ≠ name := fun heq => h (heq ▸ hkey)
      rw [if_pos hkey, if_neg hne, ih]
    · rw [if_neg hkey, Fields.get?_cons]
      split
      · rfl
      · exact ih

/-- The identifier that an object shows. -/
def Json.shownId? (value : Json) : Option String :=
  match value.object?.bind fun fields => Fields.get? fields Schema.idField with
  | some (.str text) => some text
  | _ => none

/-- The identifiers that the documents of an envelope show. -/
def Response.shownIds (response : Response) : List String :=
  match (response.body.bind Json.object?).bind fun fields => Fields.get? fields "data" with
  | some (.arr items) => items.filterMap Json.shownId?
  | _ => []

/-- A document with an identifier shows its digits. -/
theorem Document.shownId?_normalize {document : Document} {id : ObjectId}
    (h : document.id? = some id) : document.normalize.shownId? = some id.toHex := by
  -- The identifier is not the version key, so that it is shown.
  have hne : Schema.idField ≠ Schema.versionField := by decide
  have hget := Bson.get?_normalizeFields document hne
  rw [Document.get?_of_id?_eq_some h, Option.map_some, Bson.normalize] at hget
  unfold Json.shownId? Document.normalize
  rw [Json.object?, Option.bind_some, hget]

theorem Response.shownIds_created (documents : List Document) :
    (Response.withBody Status.created (Envelope.ofList documents).normalize).shownIds
      = documents.filterMap fun document => document.normalize.shownId? := by
  change (documents.map Document.normalize).filterMap Json.shownId? = _
  rw [List.filterMap_map]
  rfl

namespace Service

variable (engine : StoreEngine)

/-! ### What identity means -/

/-- **Permanent identity** along a run of a service. -/
structure IdentityPermanent (events : List Event) : Prop where
  /-- In every store every document has an identifier, and no two of a collection have the same. -/
  identified : ∀ count name, ((reached engine events count).collection name).Identified
  /-- A document keeps its identifier as long as it is there. -/
  kept : ∀ (count later : Nat) (name : String) (place : Nat) (id : Option ObjectId), count ≤ later →
    ((reached engine events count).collection name).ids[place]? = some id →
      ((reached engine events later).collection name).ids[place]? = some id
  /-- Every identifier that the response to an insertion shows leads to a document ever after. -/
  found : ∀ count schema ids request,
    events[count]? = some (.request schema ids request) → request.method = "POST" →
    (response engine schema ids request (reached engine events count)).status = Status.created →
    ∀ text ∈ (response engine schema ids request (reached engine events count)).shownIds,
    ∀ later reader fresh get, count < later → reader.collection = schema.collection →
      get.method = "GET" → get.param? "id" = some text →
      (response engine reader fresh get (reached engine events later)).status = Status.ok

/-- Whether a request to change, answered like this, was carried out and has a body that names a
path into the identifier. -/
def OverwritesId (request : Request) (response : Response) : Prop :=
  request.method = "PATCH" ∧ response.status = Status.ok ∧
    ∃ fields, request.body = some (.obj fields) ∧
      ∃ name ∈ Fields.keys fields, Document.LeadsIntoId name

/-! ### One event -/

/-- A deactivation leaves identifiers as they are. -/
theorem id?_applyChanges_deactivation (document : Document) :
    (document.applyChanges Operation.deactivation).id? = document.id? := by
  refine Document.id?_applyChanges (by decide) ?_
  rw [Operation.deactivation, Fields.keys_cons, Fields.keys_nil, List.forall_mem_singleton]
  -- The field of activity has one segment, and so leads to no inside of another field.
  have hsegments : segments Schema.activeField = [Schema.activeField] := by decide
  exact Document.not_leadsIntoId hsegments

/-- **One request.** Unless it overwrites an identifier, it keeps every collection identified, and
the identifiers in their places. -/
theorem Effect.identified {schema : Schema} {request : Request} {store after : Store}
    {response : Response} (heffect : Effect schema request store response after)
    (hrequest : ¬ OverwritesId request response)
    (h : ∀ name, (store.collection name).Identified) (name : String) :
    (after.collection name).Identified ∧
      (store.collection name).ids <+: (after.collection name).ids := by
  -- Each effect is traced to the identifiers of the collection.
  cases heffect with
  | none => exact ⟨h name, List.prefix_rfl⟩
  | @created documents _ hmethod hinsert =>
    have hall := Store.identified_insertAll h documents schema.collection name
    rw [hinsert] at hall
    exact hall
  | @refused documents _ hmethod hfailed =>
    -- What was inserted before the failure stands behind the others, identified like them.
    exact Store.identified_insertAll h documents schema.collection name
  | @changed fields changes id document _ hmethod hbody hchanges hupdate =>
    -- The body makes no change to the identifier itself, and here none to what is inside it.
    have hnames := Schema.idField_notMem_changes hchanges
    have hbeside : ∀ key ∈ Fields.keys changes, ¬ Document.LeadsIntoId key := by
      intro key hkey hleads
      exact hrequest ⟨hmethod, rfl, fields, hbody, key,
        ((Schema.mem_keys_changes hchanges).mp hkey).1, hleads⟩
    have hids := Store.ids_update store
      (fun document => Document.id?_applyChanges hnames hbeside) id .after schema.collection name
    rw [hupdate] at hids
    exact (h name).of_ids_eq hids
  | deactivated id hmethod =>
    -- A deactivation touches no identifier, whether or not it finds the document.
    exact (h name).of_ids_eq
      (Store.ids_update store id?_applyChanges_deactivation id .before schema.collection name)

/-- **One event.** -/
theorem Event.identified_after {store : Store} {event : Event}
    (hevent : ∀ schema ids request, event = .request schema ids request →
      ¬ OverwritesId request (response engine schema ids request store))
    (h : ∀ name, (store.collection name).Identified) (name : String) :
    ((event.after engine store).collection name).Identified ∧
      (store.collection name).ids <+: ((event.after engine store).collection name).ids := by
  cases event with
  -- New indexes change no documents.
  | init schema =>
    refine (h name).of_ids_eq ?_
    unfold Collection.ids
    rw [documents_init]
  | request schema ids request =>
    exact (effect engine schema store ids request).identified (hevent _ _ _ rfl) h name

/-- **Overwriting an identifier** leaves a document without one. -/
theorem Effect.not_identified {schema : Schema} {request : Request} {store after : Store}
    {response : Response} (heffect : Effect schema request store response after)
    (hrequest : OverwritesId request response) :
    ¬ (after.collection schema.collection).Identified := by
  obtain ⟨hpatch, hstatus, body, hrequestBody, path, hpath, hleads⟩ := hrequest
  intro h
  -- Only requests to change can have overwritten an identifier, and not those that fail.
  cases heffect with
  | none hfailed =>
    have hsuccess := isSuccess_of_status (Or.inl hstatus)
    rw [hfailed (Or.inr hpatch)] at hsuccess
    cases hsuccess
  | created hmethod => exact absurd (hpatch.symm.trans hmethod) (by decide)
  | refused hmethod => exact absurd (hpatch.symm.trans hmethod) (by decide)
  | @changed fields changes id document _ hmethod hbody hchanges hupdate =>
    -- The body of the effect is the body of the request.
    have hfields : fields = body := by
      rw [hrequestBody, Option.some.injEq, Json.obj.injEq] at hbody
      exact hbody.symm
    subst hfields
    have hnames := Schema.idField_notMem_changes hchanges
    -- The path is not dropped with the identifier, since it goes on.
    have hne : path ≠ Schema.idField := by
      have hsegments : segments Schema.idField = [Schema.idField] := by decide
      rintro rfl
      exact Document.not_leadsIntoId hsegments hleads
    obtain ⟨before, rfl, hmem⟩ := Store.mem_ids_of_update hupdate
    rw [Document.id?_applyChanges_eq_none hnames
      ⟨path, (Schema.mem_keys_changes hchanges).mpr ⟨hpath, hne⟩, hleads⟩] at hmem
    -- A document without an identifier is among the changed ones, against what is claimed.
    exact absurd (h.isSome _ hmem) (by simp)
  | deactivated id hmethod => exact absurd (hpatch.symm.trans hmethod) (by decide)

/-! ### Runs -/

section Runs

variable {events : List Event}
  (hevents : ∀ count schema ids request, events[count]? = some (.request schema ids request) →
    ¬ OverwritesId request (response engine schema ids request (reached engine events count)))

include hevents

theorem identified_reached (count : Nat) :
    ∀ name, ((reached engine events count).collection name).Identified := by
  refine Store.reached_induction (Event.after engine)
    (motive := fun store => ∀ name, (store.collection name).Identified)
    -- No collection of the empty store has a document without an identifier.
    (fun _ => Collection.identified_empty) ?_ count
  intro earlier event hevent hearlier name
  refine (Event.identified_after engine ?_ hearlier name).1
  rintro schema ids request rfl
  exact hevents earlier schema ids request hevent

/-- The identifiers of a collection stay in their places. -/
theorem ids_reached_le {count later : Nat} (hlater : count ≤ later) (name : String) :
    -- By induction on the events from the earlier point on, since prefixes compose.
    ((reached engine events count).collection name).ids
      <+: ((reached engine events later).collection name).ids := by
  refine Store.reached_le_induction (Event.after engine)
    (motive := fun store =>
      ((reached engine events count).collection name).ids <+: (store.collection name).ids)
    List.prefix_rfl ?_ hlater
  intro between event _ hevent hprefix
  refine hprefix.trans (Event.identified_after engine ?_
    (identified_reached engine hevents between) name).2
  rintro schema ids request rfl
  exact hevents between schema ids request hevent

end Runs

/-- What an answered insertion shows are identifiers of documents that are in the store then. -/
theorem Effect.exists_of_mem_shownIds {schema : Schema} {request : Request} {store after : Store}
    {response : Response} (heffect : Effect schema request store response after)
    (hmethod : request.method = "POST") (hstatus : response.status = Status.created)
    {text : String} (htext : text ∈ response.shownIds) :
    ∃ id : ObjectId, text = id.toHex ∧ some id ∈ (after.collection schema.collection).ids := by
  have hsuccess := isSuccess_of_status (Or.inr hstatus)
  -- Of the effects of an insertion only the complete one is answered with this status.
  cases heffect with
  | none hfailed =>
    rw [hfailed (Or.inl hmethod)] at hsuccess
    cases hsuccess
  | @created documents _ _ hinsert =>
    rw [Response.shownIds_created] at htext
    obtain ⟨document, hmem, hshown⟩ := List.mem_filterMap.mp htext
    -- The shown document is one of those that were inserted, and it has an identifier.
    obtain ⟨hsome, hid⟩ := Store.mem_ids_of_insertAll hinsert document hmem
    obtain ⟨id, hdocument⟩ := Option.isSome_iff_exists.mp hsome
    rw [Document.shownId?_normalize hdocument, Option.some.injEq] at hshown
    exact ⟨id, hshown.symm, hdocument ▸ hid⟩
  | refused _ hfailed =>
    rw [hfailed] at hsuccess
    cases hsuccess
  | changed hpatch => exact absurd (hmethod.symm.trans hpatch) (by decide)
  | deactivated _ hdelete => exact absurd (hmethod.symm.trans hdelete) (by decide)

/-- A request for a document that is there is answered. -/
theorem status_response_get {schema : Schema} {ids : Nat → ObjectId} {request : Request}
    {store : Store} {id : ObjectId} (hmethod : request.method = "GET")
    (hparam : request.param? "id" = some id.toHex)
    (hid : some id ∈ (store.collection schema.collection).ids) :
    (response engine schema ids request store).status = Status.ok := by
  unfold response answer
  rw [hmethod]
  simp only [hparam]
  rw [Operation.read_run, ObjectId.ofHex?_toHex]
  -- Some document has the identifier, so that the first one with it is fetched.
  obtain ⟨document, hdocument⟩ := Store.exists_fetch hid
    (Projection.parse (Listing.textParam request "fields"))
  simp only [hdocument]
  rfl

/-- **Permanent identity.** Along a run of a service on the empty store, identity is permanent if
and only if no request to change is carried out with a body that names a path into the
identifier. -/
theorem identityPermanent_iff (events : List Event) :
    IdentityPermanent engine events ↔
      ∀ count schema ids request, events[count]? = some (.request schema ids request) →
        ¬ OverwritesId request
          (response engine schema ids request (reached engine events count)) := by
  constructor
  · -- The store after the change is not identified.
    intro h count schema ids request hevent hoverwrites
    refine (effect engine schema (reached engine events count) ids request).not_identified
      hoverwrites ?_
    have hidentified := h.identified (count + 1) schema.collection
    rw [reached_succ engine hevent] at hidentified
    exact hidentified
  · intro hevents
    refine ⟨identified_reached engine hevents, ?_, ?_⟩
    · -- Identifiers are added at the end only.
      intro count later name place id hlater hid
      obtain ⟨more, hmore⟩ := ids_reached_le engine hevents hlater name
      rw [← hmore, List.getElem?_append_left (List.getElem?_eq_some_iff.mp hid).1]
      exact hid
    · -- What an insertion shows is there after it, and stays.
      intro count schema ids request hevent hmethod hstatus text htext later reader fresh get
        hlater hreader hget hparam
      -- The response shows the digits of an identifier that is in the store right after the
      -- request.
      obtain ⟨id, rfl, hid⟩ := (effect engine schema (reached engine events count) ids
        request).exists_of_mem_shownIds hmethod hstatus htext
      change some id ∈ (((Event.request schema ids request).after engine
        (reached engine events count)).collection schema.collection).ids at hid
      rw [← reached_succ engine hevent, ← hreader] at hid
      exact status_response_get engine hget hparam
        ((ids_reached_le engine hevents hlater reader.collection).subset hid)

/-- A document is inserted, and then a field inside its identifier is changed. -/
def overwritingRun : List Event :=
  [.request (.ofFields "items" []) ObjectId.ofNat
      ((Request.ofMethod "POST").withJsonContent.withBody
        (.obj [("_id", .str "64b7f3a2c9e77a0000000001"), ("n", .int 1)])),
    .request (.ofFields "items" []) ObjectId.ofNat
      ((Request.ofMethod "PATCH").withJsonContent.withParam "id" "64b7f3a2c9e77a0000000001"
        |>.withBody (.obj [("_id.x", .int 1), ("n", .int 2)]))]

/-- **Identity is not permanent.** The document of this run is left without an identifier. -/
theorem not_identityPermanent : ¬ ∀ engine events, IdentityPermanent engine events := by
  intro h
  -- The document is still there.
  have hids : ((reached .withoutPatterns overwritingRun 2).collection "items").ids = [none] := by
    decide +kernel
  have hsome := ((h .withoutPatterns overwritingRun).identified 2 "items").isSome none
  rw [hids] at hsome
  exact absurd (hsome List.mem_cons_self) (by decide)

end Service

end DocumentApi
