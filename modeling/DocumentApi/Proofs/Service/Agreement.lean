import DocumentApi.Proofs.Backend.Calls
import DocumentApi.Proofs.Document.StableSort
import DocumentApi.Proofs.Listing.Paging
import DocumentApi.Proofs.Service.History

/-!
# Reading one document and reading the list

A read by identifier and a read of the whole list go different ways: one fetches a document, the
other one filters, sorts and cuts all of them. They show the same document in the same way:

* `Service.read_eq_entry` — in every store that can be reached, a read by identifier is answered
  with the entry of the list for the document that has it, or with no body if there is none.

Two facts meet here. The entry for a document does not depend on the documents beside it
(`Population.perform_resolve`), so that `Listing.entry` serves both reads. And an identifier stands
at one place at most (`Store.Reachable.distinctIds`), so that the first document that is found with
it is the one that the list shows, however the list is arranged. Both the events of a service and the
calls of the backend keep this; the check for duplicates sees to it, whatever the writes are.
-/

namespace DocumentApi

/-! ### Stores that can be reached -/

/-- **The stores that can be reached** from the empty one, by events of a service and by calls of
the backend in any order. -/
inductive Store.Reachable (engine : StoreEngine) : Store → Prop
  | empty : Reachable engine .empty
  | event {store : Store} (h : Reachable engine store) (event : Service.Event) :
      Reachable engine (event.after engine store)
  | call {store : Store} (h : Reachable engine store) (call : Backend.Call) :
      Reachable engine (call.after engine store)

/-- No call brings an identifier to a second place. -/
theorem Backend.Call.distinctIds_after (engine : StoreEngine) {store : Store} {name : String}
    (h : (store.collection name).DistinctIds) (call : Call) :
    ((call.after engine store).collection name).DistinctIds := by
  -- By the effect that the call has on this collection.
  have heffect := call.effect engine store name
  generalize (call.after engine store).collection name = after at heffect ⊢
  cases heffect with
  | none => exact h
  | insert documents => exact h.insertAll documents
  | update id changes returning => exact h.changed id changes
  | createIndex field => exact h.addUnique field
  | drop => exact Collection.distinctIds_empty

/-- **Identifiers are distinct** in every store that can be reached. -/
theorem Store.Reachable.distinctIds {engine : StoreEngine} {store : Store}
    (h : store.Reachable engine) : ∀ name, (store.collection name).DistinctIds := by
  induction h with
  | empty => exact fun _ => Collection.distinctIds_empty
  | event _ event ih => exact fun name => event.distinctIds_after engine (ih name)
  | call _ call ih => exact fun name => call.distinctIds_after engine (ih name)

/-- The stores of a run can be reached. -/
theorem Service.reachable_reached (engine : StoreEngine) (events : List Event) (count : Nat) :
    (reached engine events count).Reachable engine :=
  Store.reached_induction (Event.after engine) (motive := Store.Reachable engine) .empty
    (fun _ event _ hearlier => hearlier.event event) count

/-! ### The document with an identifier in a list -/

namespace Collection

variable {collection : Collection} {id : ObjectId} {document : Document}

/-- A document with an identifier is the one that is found under it. -/
theorem DistinctIds.find?_eq (h : collection.DistinctIds) (hmem : document ∈ collection.documents)
    (hid : document.id? = some id) : collection.find? id = some document := by
  -- The identifier is among those of the collection, so the search finds a document with it.
  have hmemIds : some id ∈ collection.ids := List.mem_map.mpr ⟨document, hmem, hid⟩
  obtain ⟨found, hfound⟩ :=
    Option.ne_none_iff_exists'.mp fun hnone => find?_eq_none_iff.mp hnone hmemIds
  have hfoundId : found.id? = some id := by
    simpa using List.find?_some hfound
  -- Both documents have the identifier, so that they stand at the same place.
  obtain ⟨place, hplace⟩ := List.mem_iff_getElem?.mp (List.mem_of_find?_eq_some hfound)
  obtain ⟨other, hother⟩ := List.mem_iff_getElem?.mp hmem
  have hsame : place = other :=
    h id place other (getElem?_ids hplace hfoundId) (getElem?_ids hother hid)
  rw [hfound, ← hplace, hsame, hother]

/-- Nothing is found if no document has the identifier. -/
theorem find?_eq_none_of_forall_ne (h : ∀ document ∈ collection.documents, document.id? ≠ some id) :
    collection.find? id = none := by
  rw [find?_eq_none_iff]
  intro hmem
  obtain ⟨document, hdocument, hid⟩ := List.mem_map.mp hmem
  exact h document hdocument hid

end Collection

/-! ### Both reads -/

/-- No criteria are satisfied by all documents. -/
theorem Matching.filter_nil (engine : PatternEngine) (documents : List Document) :
    filter engine [] documents = .ok documents := by
  -- An empty list of criteria is answered without a look at the document.
  have hanswer : ∀ document, answer engine [] document = .ok true := fun _ => rfl
  refine filter_eq_ok.mpr ⟨fun document _ => ⟨true, hanswer document⟩, ?_⟩
  exact (List.filter_eq_self.mpr fun document _ => by rw [hanswer]; rfl).symm

/-- The entry that a read of a store shows for a document. -/
def Listing.entry (store : Store) (schema : Schema) (listing : Listing) (document : Document) :
    Json :=
  (Population.resolveIn store schema listing.population
    (Document.cut listing.projection document)).normalize

/-- Requests for the same fields and the same references have the same entries. -/
theorem Listing.entry_congr {a b : Request}
    (hfields : textParam a "fields" = textParam b "fields")
    (hpopulate : textParam a "populate" = textParam b "populate") (store : Store) (schema : Schema) :
    (ofRequest a).entry store schema = (ofRequest b).entry store schema := by
  funext document
  unfold entry ofRequest
  rw [hfields, hpopulate]

namespace Request

/-- Whether a request lists all documents of a collection, deactivated ones too: it has no criteria,
asks for no page, and says that inactive documents are to be shown. -/
structure ListsAll (request : Request) : Prop where
  isList : request.IsList
  query_eq : Listing.textParam request "q" = ""
  page?_eq : (Listing.ofRequest request).page? = none
  showInactive : Listing.isTruthy (request.queryParam? "showInactive") = true

end Request

namespace Service

variable {engine : StoreEngine} (schema : Schema) (ids : Nat → ObjectId) (store : Store)

/-- **The whole list** has an entry for every document, in the order in which they are arranged. -/
theorem response_of_listsAll {list : Request} (hlist : list.ListsAll) {order : List Document}
    (horder : engine.arrange (SortSpec.parse (Listing.textParam list "sort")).keys
      (store.collection schema.collection).documents = .ok order) :
    response engine schema ids list store
      = .withBody Status.ok (Envelope.toJson (.ofList
          (order.map ((Listing.ofRequest list).entry store schema)))) := by
  -- Inactive documents are shown, so no criterion is added to those of the query, of which there
  -- are none.
  have hcriteria : (Listing.ofRequest list).effectiveCriteria = [] := by
    have hshow : (Listing.ofRequest list).showInactive = true := hlist.showInactive
    have hquery : (Listing.ofRequest list).criteria = [] := by
      change Criteria.ofQuery (Listing.textParam list "q") = []
      rw [hlist.query_eq]
      rfl
    unfold Listing.effectiveCriteria
    rw [hshow, Bool.true_or, if_pos rfl, hquery]
  -- No page is asked for, so nothing is cut off.
  have hslice : ∀ documents : List Document,
      (Listing.ofRequest list).selection.slice documents = documents := by
    intro documents
    unfold Selection.slice Listing.selection
    rw [hlist.page?_eq]
    rfl
  have harranged : engine.arrange (Listing.ofRequest list).sort.keys
      (store.collection schema.collection).documents = .ok order := horder
  unfold response
  rw [answer_of_isList _ _ _ hlist.isList, Operation.list_run, Operation.listed, hcriteria,
    Matching.filter_nil]
  simp only [harranged, hslice, hlist.page?_eq]
  -- Without a page the envelope counts the entries that it holds.
  rw [← (engine.perm_of_arrange horder).length_eq]
  simp only [Envelope.normalize, Envelope.map, Envelope.withPage, Envelope.ofList, List.map_map,
    List.length_map, Option.any_none]
  rfl

/-- **A read by identifier** shows the entry for the document that is found. -/
theorem response_of_id? {get : Request} (hmethod : get.method = "GET") {id : ObjectId}
    (hid : get.id? = some id) :
    response engine schema ids get store =
      match (store.collection schema.collection).find? id with
      | some document => .withBody Status.ok ((Listing.ofRequest get).entry store schema document)
      | none => .bare Status.notFound := by
  -- The identifier is read from the parameter, and the fetch finds the document or nothing.
  obtain ⟨text, hparam, htext⟩ := Option.bind_eq_some_iff.mp hid
  unfold response answer
  rw [hmethod]
  simp only [hparam]
  rw [Operation.read_run, htext]
  simp only [Store.fetch_eq]
  cases (store.collection schema.collection).find? id <;> rfl

/-- **A read by identifier agrees with the list.** Take any store that can be reached and any
schema, a read by a well-formed identifier, and a list of all documents that asks for the same
fields and the same references to be resolved. The list is sorted in any way; this is never given up
where the keys put the documents in order, as no keys at all do. Then the list is answered with one
entry for each document of the collection, in sorted order. If a document has the identifier, then
its place in this order is the only one of such a document, and the read is answered with the entry
at this place; if none has it, then the read is answered as not found, without a body. -/
theorem read_eq_entry {store : Store} (hstore : store.Reachable engine) (schema : Schema)
    (ids fresh : Nat → ObjectId) {get list : Request} {id : ObjectId} (hmethod : get.method = "GET")
    (hid : get.id? = some id) (hlist : list.ListsAll)
    (hfields : Listing.textParam list "fields" = Listing.textParam get "fields")
    (hpopulate : Listing.textParam list "populate" = Listing.textParam get "populate") :
    let documents := (store.collection schema.collection).documents
    let keys := (SortSpec.parse (Listing.textParam list "sort")).keys
    (Document.Ordered keys documents →
      engine.arrange keys documents = .ok (Document.sortBy keys documents)) ∧
    (∀ order, engine.arrange keys documents = .ok order →
      ∃ entries : List Json,
        response engine schema ids list store
          = .withBody Status.ok (Envelope.toJson (.ofList entries)) ∧
        entries.length = order.length ∧ order.Perm documents ∧
        ∀ (place : Nat) document entry, order[place]? = some document →
          entries[place]? = some entry → document.id? = some id →
            response engine schema fresh get store = .withBody Status.ok entry ∧
            ∀ (other : Nat) found, order[other]? = some found → found.id? = some id →
              other = place) ∧
    ((∀ document ∈ documents, document.id? ≠ some id) →
      response engine schema fresh get store = .bare Status.notFound) := by
  intro documents keys
  have hdistinct : (store.collection schema.collection).DistinctIds :=
    hstore.distinctIds schema.collection
  refine ⟨fun hordered => engine.arrange_eq hordered, ?_, ?_⟩
  · intro order horder
    -- Entries are made from the documents in order, so that places agree.
    have hperm : order.Perm documents := engine.perm_of_arrange horder
    refine ⟨order.map ((Listing.ofRequest list).entry store schema),
      response_of_listsAll schema ids store hlist horder, List.length_map _, hperm, ?_⟩
    intro place document entry hplace hentryAt hdocument
    rw [List.getElem?_map, hplace, Option.map_some, Option.some.injEq] at hentryAt
    -- The document of the list is the one that the read finds.
    have hmem : document ∈ documents := hperm.mem_iff.mp (List.mem_of_getElem? hplace)
    have hfound := hdistinct.find?_eq hmem hdocument
    refine ⟨?_, fun other found hother hfoundId =>
      hdistinct.eq_of_perm hperm hplace hdocument hother hfoundId⟩
    rw [response_of_id? schema fresh store hmethod hid, hfound, ← hentryAt,
      Listing.entry_congr hfields hpopulate]
  · intro hnone
    rw [response_of_id? schema fresh store hmethod hid,
      Collection.find?_eq_none_of_forall_ne hnone]

/-- Posts that refer to users. -/
def postSchema : Schema :=
  .ofFields "posts" [{ name := "author", target := some (.ofFields "users" []) }]

/-- A user and two posts are inserted, and the user's post is deactivated. -/
def twoPosts : List Event :=
  [.request (.ofFields "users" []) .ofNat
      ((Request.ofMethod "POST").withJsonContent.withBody
        (.obj [("_id", .str "64b7f3a2c9e77a0000000001"), ("name", .str "Ann")])),
    .request postSchema .ofNat
      ((Request.ofMethod "POST").withJsonContent.withBody
        (.arr [.obj [("_id", .str "64b7f3a2c9e77a0000000002"), ("title", .str "Zebras"),
            ("author", .str "64b7f3a2c9e77a0000000001")],
          .obj [("_id", .str "64b7f3a2c9e77a0000000003"), ("title", .str "Ants")]])),
    .request postSchema .ofNat
      ((Request.ofMethod "DELETE").withParam "id" "64b7f3a2c9e77a0000000002")]

/-- A read of one post, with its author in place of the reference. -/
def readPost (id : String) : Request :=
  ((Request.ofMethod "GET").withParam "id" id).withQuery "populate" "author"

/-- A list of all posts by title, with their authors in place of the references. -/
def postsByTitle : Request :=
  (((Request.ofMethod "GET").withQuery "populate" "author").withQuery "sort" "title").withQuery
    "showInactive" "true"

/-- The first post comes second in the list by title, and a read by its identifier shows it as the
list does; there is no third post. -/
theorem read_eq_entry_twoPosts :
    ∃ entries : List Json,
      response .withoutPatterns postSchema .ofNat postsByTitle (reached .withoutPatterns twoPosts 3)
        = .withBody Status.ok (Envelope.toJson (.ofList entries)) ∧
      (∃ entry, entries[1]? = some entry ∧
        response .withoutPatterns postSchema .ofNat (readPost "64B7F3A2C9E77A0000000002")
          (reached .withoutPatterns twoPosts 3) = .withBody Status.ok entry) ∧
      response .withoutPatterns postSchema .ofNat (readPost "64b7f3a2c9e77a0000000004")
        (reached .withoutPatterns twoPosts 3) = .bare Status.notFound := by
  have hreachable := reachable_reached .withoutPatterns twoPosts 3
  have hlist : postsByTitle.ListsAll :=
    ⟨⟨rfl, rfl⟩, rfl, by decide +kernel, by decide +kernel⟩
  have hfirst : (readPost "64B7F3A2C9E77A0000000002").id?
      = some (.ofNat 0x64b7f3a2c9e77a0000000002) := by decide +kernel
  have hthird : (readPost "64b7f3a2c9e77a0000000004").id?
      = some (.ofNat 0x64b7f3a2c9e77a0000000004) := by decide +kernel
  obtain ⟨harranged, hentries, -⟩ :=
    read_eq_entry hreachable postSchema .ofNat .ofNat rfl hfirst hlist rfl rfl
  obtain ⟨-, -, hmissing⟩ :=
    read_eq_entry hreachable postSchema .ofNat .ofNat rfl hthird hlist rfl rfl
  have hordered : Document.Ordered (SortSpec.parse (Listing.textParam postsByTitle "sort")).keys
      ((reached .withoutPatterns twoPosts 3).collection "posts").documents := by decide +kernel
  have hnone : ∀ document ∈ ((reached .withoutPatterns twoPosts 3).collection "posts").documents,
      document.id? ≠ some (.ofNat 0x64b7f3a2c9e77a0000000004) := by decide +kernel
  obtain ⟨entries, hresponse, hlength, -, hentry⟩ := hentries _ (harranged hordered)
  refine ⟨entries, hresponse, ?_, hmissing hnone⟩
  -- The post that was inserted first stands behind the other one.
  have hplace : ((Document.sortBy (SortSpec.parse (Listing.textParam postsByTitle "sort")).keys
      ((reached .withoutPatterns twoPosts 3).collection "posts").documents)[1]?).bind Document.id?
        = some (.ofNat 0x64b7f3a2c9e77a0000000002) := by decide +kernel
  obtain ⟨document, hdocument, hid⟩ := Option.bind_eq_some_iff.mp hplace
  have hlt : 1 < entries.length := by
    rw [hlength]
    exact (List.getElem?_eq_some_iff.mp hdocument).1
  exact ⟨entries[1], List.getElem?_eq_getElem hlt,
    (hentry 1 document _ hdocument (List.getElem?_eq_getElem hlt) hid).1⟩

end Service

end DocumentApi
