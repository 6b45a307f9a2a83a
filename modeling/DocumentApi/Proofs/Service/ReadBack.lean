import DocumentApi.Proofs.Schema.NewDocument
import DocumentApi.Proofs.Service.Run
import DocumentApi.Proofs.Store.Reading

/-!
# Reading back what was inserted

An insertion is answered with the documents as they have been inserted, and a read of one of them
that follows is answered with the same entry:

* `Service.readBack_of_created` — the entries of the response to an insertion, what each of them
  shows of its object (`Schema.Shows`), and that it is read back by its identifier.

A read may name the identifier in any letter case. It goes to the same document because identifiers
are read from digits of either case, and because no document before the insertion has one of the
identifiers that are inserted.
-/

namespace DocumentApi

namespace Request

/-- Whether a request reads one whole document, given the text of its identifier in lower case. It
asks neither for some of the fields only nor for documents in place of references. -/
structure ReadsWhole (request : Request) (text : String) : Prop where
  method_eq : request.method = "GET"
  id_toLower : (request.param? "id").map String.toLower = some text
  fields_eq : request.queryParam? "fields" = none
  populate_eq : request.queryParam? "populate" = none

/-- The objects of a well-formed body are well-formed. -/
theorem Carries.wellFormed {request : Request} {objects : List (Fields Json)}
    (h : request.Carries objects) (hbody : ∀ body, request.body = some body → body.WellFormed) :
    ∀ object ∈ objects, (Json.obj object).WellFormed := by
  intro object hobject
  -- The body is one object, or a list with this object among its items.
  rcases h with ⟨fields, hfields, rfl⟩ | hitems
  · rw [List.mem_singleton.mp hobject]
    exact hbody _ hfields
  · have hall := hbody _ hitems
    rw [Json.WellFormed, Json.wellFormedItems_iff] at hall
    exact hall _ (List.mem_map_of_mem hobject)

end Request

namespace Service

variable {engine : StoreEngine} {schema : Schema} {store after : Store} {ids : Nat → ObjectId}
  {request : Request}

/-! ### The insertion -/

/-- What is known of an insertion that is answered as carried out. -/
theorem Outcome.insertAll_of_created {response : Response}
    (houtcome : Outcome schema ids request store response after)
    (hmethod : request.method = "POST") (hstatus : response.status = Status.created) :
    ∃ objects documents, request.Carries objects ∧
      Operation.prepareAll schema ids 0 objects = .ok documents ∧
      store.insertAll documents schema.collection = (.ok (), after) ∧
      response.body = some (Envelope.ofList documents).normalize := by
  -- A created insertion succeeded, which excludes refusals and insertions that stopped.
  have hsuccess := isSuccess_of_status (Or.inr hstatus)
  cases houtcome with
  | read hget => exact absurd (hmethod.symm.trans hget) (by decide)
  | refused hfailed =>
    rw [hfailed] at hsuccess
    cases hsuccess
  | inserted _ hobjects hdocuments hinsert => exact ⟨_, _, hobjects, hdocuments, hinsert, rfl⟩
  | stopped =>
    rw [Operation.isSuccess_failed] at hsuccess
    cases hsuccess
  | changed hpatch => exact absurd (hmethod.symm.trans hpatch) (by decide)
  | deactivated hdelete => exact absurd (hmethod.symm.trans hdelete) (by decide)

/-- The response to an insertion shows the documents one by one. -/
theorem normalize_ofList (documents : List Document) :
    (Envelope.ofList documents).normalize
      = Envelope.toJson (.ofList ((documents.map Bson.normalizeFields).map Json.obj)) := by
  unfold Envelope.normalize Envelope.map Envelope.ofList
  simp only [List.length_map, List.map_map]
  rfl

/-! ### The read -/

/-- A read of one whole document is answered with it, in whichever letter case it names the
identifier. -/
theorem response_of_readsWhole {get : Request} {id : ObjectId} {document : Document}
    (hget : get.ReadsWhole id.toHex)
    (hfetch : store.fetch id .whole schema.collection = some document) :
    response engine schema ids get store = .withBody Status.ok document.normalize := by
  -- The text in the request is another spelling of the identifier.
  obtain ⟨text, hparam, hlower⟩ := Option.map_eq_some_iff.mp hget.id_toLower
  have hid : ObjectId.ofHex? text = some id := ObjectId.ofHex?_eq_some_iff.mpr hlower
  -- Parameters that are absent ask for all fields and for no documents in place of references.
  have hfields : Projection.parse (Listing.textParam get "fields") = .whole := by
    unfold Listing.textParam
    rw [hget.fields_eq]
    decide
  have hpopulate : Population.parse (Listing.textParam get "populate") = [] := by
    unfold Listing.textParam
    rw [hget.populate_eq]
    rfl
  -- With the text read as the identifier, the read is a single fetch of the whole document.
  unfold response answer
  rw [hget.method_eq]
  simp only [hparam]
  rw [Operation.read_run, hid, hfields, hpopulate]
  simp only [hfetch, Population.resolveIn]

/-! ### The insertion and the read -/

/-- **Reading back.** An insertion that is carried out is answered with an entry for each object of
its body. The entry shows the object, with an identifier that no document had before, and a read of
the whole document that follows is answered with the same entry. -/
theorem readBack_of_created {collection : String} {fields : List Field}
    (hmethod : request.method = "POST") (hbody : ∀ body, request.body = some body → body.WellFormed)
    (hstatus : (response engine (.ofFields collection fields) ids request store).status
      = Status.created) :
    ∃ objects entries : List (Fields Json), request.Carries objects ∧
      entries.length = objects.length ∧
      (response engine (.ofFields collection fields) ids request store).body
        = some (Envelope.toJson (.ofList (entries.map Json.obj))) ∧
      ∀ (place : Nat) sent shown, objects[place]? = some sent → entries[place]? = some shown →
        ∃ id : ObjectId,
          (Schema.ofFields collection fields).Shows (ids place) sent id.toHex shown ∧
          store.fetch id .whole collection = none ∧
          ∀ fresh get, get.ReadsWhole id.toHex →
            response engine (.ofFields collection fields) fresh get
                ((Event.request (.ofFields collection fields) ids request).after engine store)
              = .withBody Status.ok (.obj shown) := by
  obtain ⟨objects, documents, hobjects, hdocuments, hinsert, hresponse⟩ :=
    (outcome engine (.ofFields collection fields) ids store request).insertAll_of_created
      hmethod hstatus
  refine ⟨objects, documents.map Bson.normalizeFields, hobjects, ?_, ?_, ?_⟩
  · rw [List.length_map, Operation.length_of_prepareAll hdocuments]
  · unfold response
    rw [hresponse, normalize_ofList]
  · intro place sent shown hsent hshown
    rw [List.getElem?_map] at hshown
    obtain ⟨document, hdocument, rfl⟩ := Option.map_eq_some_iff.mp hshown
    -- The document at the place is the one that has been prepared from the object there.
    have hprepared := Operation.getElem?_of_prepareAll hdocuments place
    rw [hdocument, hsent, Option.map_some, Option.map_some, Option.some.injEq, Nat.zero_add]
      at hprepared
    -- What is prepared shows the object, whatever the schema.
    obtain ⟨id, hid, hshows⟩ := Schema.shows_of_newDocument
      (Schema.distinctNames_ofFields collection fields)
      (hobjects.wellFormed hbody sent (List.mem_of_getElem? hsent)) hprepared.symm
    -- Its identifier was free before, and fetches this document from now on.
    obtain ⟨hnone, hfetch⟩ :=
      Store.fetch_of_insertAll hinsert (List.mem_of_getElem? hdocument) hid .whole
    refine ⟨id, hshows, hnone, fun fresh get hget => ?_⟩
    have hwhole : Document.cut .whole document = document := rfl
    rw [hwhole] at hfetch
    exact response_of_readsWhole hget hfetch

/-- Fields of which one refers to another collection and one starts as an empty list. -/
def draftFields : List Field :=
  [{ name := "author", target := some (.ofFields "users" []) },
    { name := "tags", initial := some (.array []) }]

/-- An insertion that gives an identifier, a reference and a nested object. -/
def draftInsertion : Request :=
  (Request.ofMethod "POST").withJsonContent.withBody
    (.obj [("title", .str "Draft"), ("author", .str "64B7F3A2C9E77A0000000002"),
      ("_id", .str "64B7F3A2C9E77A0000000001"),
      ("stats", .obj [("views", .int 3), ("likes", .null)])])

/-- A read of what is inserted, by the identifier in upper case. -/
def draftRead : Request :=
  (Request.ofMethod "GET").withParam "id" "64B7F3A2C9E77A0000000001"

theorem readBack_of_created_draft :
    draftInsertion.method = "POST" ∧
      (∀ body, draftInsertion.body = some body → body.WellFormed) ∧
      (response .withoutPatterns (.ofFields "posts" draftFields) ObjectId.ofNat draftInsertion
        .empty).status = Status.created ∧
      ∃ shown : Fields Json,
        (response .withoutPatterns (.ofFields "posts" draftFields) ObjectId.ofNat draftInsertion
          .empty).body = some (Envelope.toJson (.ofList [.obj shown])) ∧
        Fields.get? shown "_id" = some (.str "64b7f3a2c9e77a0000000001") ∧
        response .withoutPatterns (.ofFields "posts" draftFields) ObjectId.ofNat draftRead
            ((Event.request (.ofFields "posts" draftFields) ObjectId.ofNat draftInsertion).after
              .withoutPatterns .empty)
          = .withBody Status.ok (.obj shown) := by
  have hmethod : draftInsertion.method = "POST" := rfl
  -- Well-formedness is about the names in the body alone.
  have hbody : ∀ body, draftInsertion.body = some body → body.WellFormed := by
    rintro _ ⟨⟩
    simp only [Json.WellFormed, Json.WellFormedFields]
    decide
  have hstatus : (response .withoutPatterns (.ofFields "posts" draftFields) ObjectId.ofNat
      draftInsertion .empty).status = Status.created := by decide +kernel
  refine ⟨hmethod, hbody, hstatus, ?_⟩
  obtain ⟨objects, entries, hobjects, hlength, hresponse, hentries⟩ :=
    readBack_of_created hmethod hbody hstatus
  -- The body is one object, so there is one entry.
  obtain ⟨sent, hsent, rfl⟩ | hitems := hobjects
  · obtain ⟨shown, rfl⟩ := List.length_eq_one_iff.mp hlength
    cases hsent
    -- The identifier comes from the object, in lower case.
    obtain ⟨id, ⟨⟨-, hid⟩, own, -, hshown⟩, -, hread⟩ := hentries 0 _ shown rfl rfl
    have hlower : id.toHex = "64b7f3a2c9e77a0000000001" := hid.trans (by decide +kernel)
    refine ⟨shown, hresponse, ?_, hread _ _ ⟨rfl, ?_, rfl, rfl⟩⟩
    · rw [hshown, hlower]
      rfl
    · rw [hlower]
      decide +kernel
  · cases hitems

end Service

end DocumentApi
