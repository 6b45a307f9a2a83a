import DocumentApi.Proofs.Listing.Paging
import DocumentApi.Proofs.Service.History
import DocumentApi.Proofs.Service.Identity

/-!
# Deactivated documents

A deactivation hides a document from lists that do not ask about activity, until a request changes
the field of activity itself. A request may still change a field *inside* it, which puts a document
in its place; this does not count as active either.

* `Service.hidden_of_deactivated` — a document that is deactivated `StaysHidden`: up to the next
  reactivation, every list that does not ask about activity is the list of the other documents. The
  same deactivation once more has the same response and changes nothing.

What carries this is that a deactivated document remains `Document.Inactive` under every request but
a reactivation (`Service.Deactivated.revise`), and that an inactive document does not satisfy
criteria that ask for active ones (`Document.Inactive.answer_eq_false`). A document that does not
satisfy criteria makes no difference to a list (`Operation.listed_eraseIdx`).
-/

namespace DocumentApi

/-! ### Inactive documents -/

/-- Whether a document counts as inactive: the field of activity is false, or a document. -/
def Document.Inactive (document : Document) : Prop :=
  Fields.get? document Schema.activeField = some (.bool false) ∨
    ∃ fields, Fields.get? document Schema.activeField = some (.document fields)

namespace Document

variable {document : Document}

theorem inactive_insert (document : Document) :
    Inactive (Fields.insert document Schema.activeField (.bool false)) :=
  Or.inl (Fields.get?_insert_self document _ _)

/-- Changes that do not name the field of activity leave a document inactive. -/
theorem Inactive.applyChanges (h : document.Inactive) {changes : Fields Bson}
    (hnames : Schema.activeField ∉ Fields.keys changes) :
    (document.applyChanges changes).Inactive := by
  -- Changes below the field of activity put a document there, and others leave its value.
  rcases get?_applyChanges_cases document hnames with hsame | hdocument
  · unfold Inactive
    rw [hsame]
    exact h
  · exact Or.inr hdocument

/-- The value that the field of activity leads to, which is no list. -/
theorem Inactive.candidates_eq (h : document.Inactive) :
    document.candidates Schema.activeField = [.bool false] ∨
      ∃ fields, document.candidates Schema.activeField = [.document fields] := by
  -- The name has one segment, which leads to the value and does not go through a list.
  have hsegments : segments Schema.activeField = [Schema.activeField] := by decide
  unfold candidates resolve
  rw [hsegments]
  simp only
  rcases h with h | ⟨fields, h⟩
  · rw [h]
    exact Or.inl rfl
  · rw [h]
    exact Or.inr ⟨fields, rfl⟩

/-- **An inactive document** does not satisfy criteria that ask for active ones. -/
theorem Inactive.answer_eq_false {engine : PatternEngine} {criteria : Criteria}
    (h : document.Inactive)
    (hcriteria : Fields.get? criteria Schema.activeField = some (.bool true)) (isMatch : Bool)
    (hanswer : Matching.answer engine criteria document = .ok isMatch) : isMatch = false := by
  refine Matching.answer_eq_false (Matching.mem_leaves_of_get? hcriteria) ?_ hanswer
  -- The question for active documents is answered by comparing the value with true.
  change (pure ((document.candidates Schema.activeField).any (Matching.isEqualTo (.bool true))) :
    MatchM Bool) = pure false
  rcases h.candidates_eq with hcandidates | ⟨fields, hcandidates⟩
  · rw [hcandidates]
    rfl
  · rw [hcandidates]
    rfl

end Document

/-! ### Lists -/

namespace Request

/-- Whether a request for a list does not ask for inactive documents: the parameter `showInactive`
is absent, blank, `false` or `0`, and the criteria do not ask about activity. -/
structure HidesInactive (request : Request) : Prop where
  showInactive : ∀ text, request.queryParam? "showInactive" = some text →
    Text.trim text ∈ ["", "false", "0"]
  criteria : Schema.activeField ∉ Fields.keys (Criteria.ofQuery (Listing.textParam request "q"))

/-- Such a request asks for active documents. -/
theorem HidesInactive.get?_effectiveCriteria {request : Request} (h : request.HidesInactive) :
    Fields.get? (Listing.ofRequest request).effectiveCriteria Schema.activeField
      = some (.bool true) := by
  -- Each of the texts that do not ask for inactive documents counts as no.
  have hshow : (Listing.ofRequest request).showInactive = false := by
    change Listing.isTruthy (request.queryParam? "showInactive") = false
    unfold Listing.isTruthy
    cases htext : request.queryParam? "showInactive" with
    | none => rfl
    | some text =>
      have hword := h.showInactive text htext
      simp only [List.mem_cons, List.not_mem_nil, or_false] at hword
      rcases hword with hword | hword | hword <;> simp [hword]
  have hcontains : Fields.contains (Listing.ofRequest request).criteria Schema.activeField
      = false := by
    change (Fields.get? (Criteria.ofQuery (Listing.textParam request "q"))
      Schema.activeField).isSome = false
    rw [Fields.get?_eq_none_iff.mpr h.criteria, Option.isSome_none]
  -- So the question for active documents is added to the criteria.
  unfold Listing.effectiveCriteria
  rw [hshow, hcontains]
  exact Fields.get?_insert_self _ _ _

end Request

namespace Operation

variable (engine : StoreEngine) (schema : Schema) (store : Store)

/-- **A list without one document.** If the document at a place does not satisfy the criteria, then
a list that succeeds is the list of the others. -/
theorem listed_eraseIdx {listing : Listing} {documents : List Document} {place : Nat}
    {document : Document} (hplace : documents[place]? = some document)
    (hno : ∀ isMatch,
      Matching.answer engine listing.effectiveCriteria document = .ok isMatch → isMatch = false)
    (hsuccess : (listed engine schema store listing documents).isSuccess = true) :
    listed engine schema store listing documents
      = listed engine schema store listing (documents.eraseIdx place) := by
  cases hmatched : Matching.filter engine listing.effectiveCriteria documents with
  | error failure =>
    rw [listed, hmatched, isSuccess_failed] at hsuccess
    cases hsuccess
  | ok matched =>
    -- What satisfies the criteria is the same with and without the document.
    rw [listed, listed, hmatched, Matching.filter_eraseIdx hplace hno hmatched]

end Operation

namespace Service

open Operation

section Request

variable {schema : Schema} {ids : Nat → ObjectId} {request : Request} {store after : Store}
  {response : Response} {id : ObjectId} {document : Document} {name : String}

/-! ### Reactivations -/

/-- Whether a request to change the document with an identifier is carried out and names the field
of activity itself. -/
def Reactivates (schema : Schema) (request : Request) (response : Response) (name : String)
    (id : ObjectId) : Prop :=
  schema.collection = name ∧ request.method = "PATCH" ∧ request.id? = some id ∧
    response.isSuccess = true ∧
    ∃ fields, request.body = some (.obj fields) ∧ Schema.activeField ∈ Fields.keys fields

/-- Whether a document is inactive and has an identifier or, if this has been overwritten since,
none. -/
structure Deactivated (id : ObjectId) (document : Document) : Prop where
  inactive : document.Inactive
  id?_eq : document.id? = some id ∨ document.id? = none

/-- Changes that name neither the field of activity nor the identifier keep a document deactivated. -/
theorem Deactivated.applyChanges (h : Deactivated id document) {changes : Fields Bson}
    (hactive : Schema.activeField ∉ Fields.keys changes)
    (hidField : Schema.idField ∉ Fields.keys changes) :
    Deactivated id (document.applyChanges changes) := by
  refine ⟨h.inactive.applyChanges hactive, ?_⟩
  -- A change inside the identifier leaves none, and every other change leaves it as it is.
  rcases Document.id?_applyChanges_cases document hidField with hkept | hnone
  · rw [hkept]
    exact h.id?_eq
  · exact Or.inr hnone

/-- A deactivation keeps a document deactivated. -/
theorem Deactivated.deactivate (h : Deactivated id document) :
    Deactivated id (document.applyChanges deactivation) := by
  refine ⟨?_, ?_⟩
  · rw [Document.applyChanges_deactivation]
    exact Document.inactive_insert document
  · rw [id?_applyChanges_deactivation]
    exact h.id?_eq

/-- **A deactivated document** remains one, unless the request is a reactivation. -/
theorem Deactivated.revise (h : Deactivated id document)
    (hrequest : ¬ Reactivates schema request response name id) :
    Deactivated id (revise schema request response name document) := by
  by_cases hcarriedOut : schema.collection = name ∧ response.isSuccess = true
  · unfold Service.revise
    rw [if_pos hcarriedOut]
    cases hrequested : requested? schema request with
    | none => exact h
    | some asked =>
      obtain ⟨about, changes⟩ := asked
      simp only
      by_cases hid : document.id? = some about
      · rw [if_pos hid]
        obtain ⟨habout, ⟨hmethod, fields, hbody, hchanges⟩ | rfl⟩ := requested?_eq_some hrequested
        · -- The request is about this document, so that it names the identifier.
          have hsame : about = id := by
            rcases h.id?_eq with hsome | hnone
            · exact Option.some.inj (hid.symm.trans hsome)
            · exact absurd (hid.symm.trans hnone) (by simp)
          subst hsame
          -- Not being a reactivation, it does not name the field of activity.
          have hactive : Schema.activeField ∉ Fields.keys changes := fun hmem =>
            hrequest ⟨hcarriedOut.1, hmethod, habout, hcarriedOut.2, fields, hbody,
              ((Schema.mem_keys_changes hchanges).mp hmem).1⟩
          exact h.applyChanges hactive (Schema.idField_notMem_changes hchanges)
        · exact h.deactivate
      · -- The request is about another document.
        rw [if_neg hid]
        exact h
  · rw [revise_of_not hcarriedOut]
    exact h

/-! ### Deactivations -/

/-- A deactivation that is answered as a success. -/
theorem Written.of_delete {collection : Collection} {later : List Document}
    (hwritten : Written schema ids request collection response later)
    (hmethod : request.method = "DELETE") :
    ∃ id place document, request.id? = some id ∧ collection.IsAt id place document ∧
      response = .withBody Status.ok (Operation.deactivated id) := by
  cases hwritten with
  | read hget => exact absurd (hmethod.symm.trans hget) (by decide)
  | inserted hpost => exact absurd (hmethod.symm.trans hpost) (by decide)
  | changed hpatch => exact absurd (hmethod.symm.trans hpatch) (by decide)
  | @deactivated id place document _ hid hat => exact ⟨id, place, document, hid, hat, rfl⟩

/-- A deactivation that is answered as a success was carried out by the store. -/
theorem Outcome.update_of_delete (houtcome : Outcome schema ids request store response after)
    (hmethod : request.method = "DELETE") (hsuccess : response.isSuccess = true)
    (hid : request.id? = some id) :
    ∃ previous, store.update id deactivation .before schema.collection
      = (.ok (some previous), after) := by
  cases houtcome with
  | read hget => exact absurd (hmethod.symm.trans hget) (by decide)
  | refused hfailed =>
    rw [hfailed] at hsuccess
    cases hsuccess
  | inserted hpost => exact absurd (hmethod.symm.trans hpost) (by decide)
  | stopped hpost => exact absurd (hmethod.symm.trans hpost) (by decide)
  | changed hpatch => exact absurd (hmethod.symm.trans hpatch) (by decide)
  -- Only the last way out is a deactivation, and it names this identifier.
  | @deactivated about previous _ _ habout hupdate =>
    have hsame : about = id := Option.some.inj (habout.symm.trans hid)
    subst hsame
    exact ⟨previous, hupdate⟩

end Request

variable (engine : StoreEngine)

/-- **A deactivation once more**, right after one that was carried out, has the same response and
leaves all collections as they are. -/
theorem response_deactivation_again {store after : Store} {name : String} {id : ObjectId}
    {previous : Document}
    (hupdate : store.update id deactivation .before name = (.ok (some previous), after))
    {schema : Schema} (hschema : schema.collection = name) (ids : Nat → ObjectId)
    {request : Request} (hmethod : request.method = "DELETE") (hid : request.id? = some id) :
    response engine schema ids request after
        = .withBody Status.ok (Operation.deactivated id) ∧
      Intact after ((Event.request schema ids request).after engine after) := by
  subst hschema
  -- A second deactivation makes no difference to any document.
  have hsame : ∀ document : Document,
      (document.applyChanges deactivation).applyChanges deactivation
        = document.applyChanges deactivation := by
    intro document
    rw [Document.applyChanges_deactivation, Document.applyChanges_deactivation]
    exact Fields.insert_of_get?_eq_some (Fields.get?_insert_self _ _ _)
  obtain ⟨current, hcurrent, hagain⟩ :=
    Store.update_again hupdate hsame id?_applyChanges_deactivation
  obtain ⟨text, htext, hcheck⟩ := Request.checkId_of_id? hid .missing
  have hanswer : (answer (.inMemory engine) schema ids request).run after
      = (.withBody Status.ok (Operation.deactivated id),
        after.withCollection schema.collection (after.collection schema.collection)) := by
    unfold answer
    rw [hmethod]
    simp only
    rw [deactivate_run, hcheck]
    simp only
    rw [htext]
    simp only
    rw [hagain]
    simp only
    rw [hcurrent, Option.getD_some]
  refine ⟨congrArg Prod.fst hanswer, ?_⟩
  rw [Event.after, hanswer]
  exact intact_withCollection after schema.collection

/-! ### Runs -/

/-- Whether no request between two points of a run is a reactivation. -/
def NotReactivated (events : List Event) (count later : Nat) (name : String) (id : ObjectId) :
    Prop :=
  ∀ between schema ids request, count < between → between < later →
    events[between]? = some (.request schema ids request) →
    ¬ Reactivates schema request
      (response engine schema ids request (reached engine events between)) name id

/-- The history of a document that begins with a deactivation of it. -/
theorem deactivated_history_one {events : List Event} {count : Nat} {schema : Schema}
    {ids : Nat → ObjectId} {request : Request}
    (hevent : events[count]? = some (.request schema ids request))
    (hmethod : request.method = "DELETE")
    (hsuccess : (response engine schema ids request (reached engine events count)).isSuccess
      = true) {id : ObjectId} (hid : request.id? = some id) {place : Nat} {document : Document}
    (hat : ((reached engine events count).collection schema.collection).IsAt id place document) :
    Deactivated id (history engine events schema.collection count 1 document) := by
  rw [history, Nat.add_zero, hevent]
  change Deactivated id (revise schema request
    (response engine schema ids request (reached engine events count)) schema.collection document)
  -- The deactivation is carried out and about this document.
  rw [revise_of_requested?_eq_some hsuccess (requested?_of_delete hmethod hid)]
  simp only
  rw [if_pos hat.id?_eq]
  refine ⟨?_, Or.inl ((id?_applyChanges_deactivation document).trans hat.id?_eq)⟩
  rw [Document.applyChanges_deactivation]
  exact Document.inactive_insert document

/-- **A document that is deactivated** remains so as long as it is not reactivated. -/
theorem deactivated_history {events : List Event} {count : Nat} {name : String} {id : ObjectId}
    {document : Document}
    (hfirst : Deactivated id (history engine events name count 1 document)) {steps : Nat}
    (hsteps : 1 ≤ steps) (hnot : NotReactivated engine events count (count + steps) name id) :
    Deactivated id (history engine events name count steps document) := by
  -- By induction on the events after the deactivation: each of them is none, creates indexes, or is
  -- a request that is no reactivation.
  induction steps, hsteps using Nat.le_induction with
  | base => exact hfirst
  | succ steps hsteps ih =>
    have hbefore := ih fun between schema ids request hcount hlater =>
      hnot between schema ids request hcount (by omega)
    rw [history]
    cases hevent : events[count + steps]? with
    | none => exact hbefore
    | some event =>
      cases event with
      | init schema => exact hbefore
      | request schema ids request =>
        exact hbefore.revise (hnot (count + steps) schema ids request (by omega) (by omega) hevent)

/-- **A document stays hidden** that is deactivated at a point of a run: the only document of its
collection with an identifier, by a request that is answered like this. -/
structure StaysHidden (events : List Event) (count : Nat) (name : String) (id : ObjectId)
    (place : Nat) (document : Document) (first : Response) : Prop where
  /-- At this point it is the only document with the identifier. -/
  isAt : ((reached engine events count).collection name).IsAt id place document
  /-- It stays at its place, with the changes made in it. -/
  kept : ∀ later, count < later →
    ((reached engine events later).collection name).documents[place]?
      = some (history engine events name count (later - count) document)
  /-- Up to the next reactivation, a list that does not ask for inactive documents, if it succeeds,
  is the list of the documents at all other places. -/
  hidden : ∀ later, count < later → NotReactivated engine events count later name id →
    ∀ reader fresh list, reader.collection = name → list.IsList → list.HidesInactive →
      (response engine reader fresh list (reached engine events later)).isSuccess = true →
      response engine reader fresh list (reached engine events later)
        = listed engine reader (reached engine events later) (.ofRequest list)
          (((reached engine events later).collection name).documents.eraseIdx place)
  /-- A deactivation of the same identifier right afterwards has the same response, and changes
  nothing. -/
  again : ∀ schema fresh repeated, schema.collection = name → repeated.method = "DELETE" →
    repeated.id? = some id →
    response engine schema fresh repeated (reached engine events (count + 1)) = first ∧
      Intact (reached engine events (count + 1))
        ((Event.request schema fresh repeated).after engine (reached engine events (count + 1)))

/-- **Deactivated documents are hidden.** If a deactivation is answered with success along a run,
then it is about a document that stays hidden until it is reactivated. -/
theorem hidden_of_deactivated (events : List Event) (count : Nat) (schema : Schema)
    (ids : Nat → ObjectId) (request : Request)
    (hevent : events[count]? = some (.request schema ids request))
    (hmethod : request.method = "DELETE")
    (hstatus : (response engine schema ids request (reached engine events count)).status
      = Status.ok) :
    ∃ id place document, request.id? = some id ∧
      StaysHidden engine events count schema.collection id place document
        (response engine schema ids request (reached engine events count)) := by
  have hsuccess := isSuccess_of_status (Or.inl hstatus)
  have houtcome := outcome engine schema ids (reached engine events count) request
  -- The deactivation has its declared effect, which names the document and its place.
  obtain ⟨id, place, document, hid, hat, hresponse⟩ := (houtcome.declaredEffect hsuccess
    (distinctIds_reached engine events count schema.collection)).written.of_delete hmethod
  have hkept : ∀ later, count < later →
      ((reached engine events later).collection schema.collection).documents[place]?
        = some (history engine events schema.collection count (later - count) document) :=
    -- What stands at a place stays there, with its history.
    fun later hlater => getElem?_documents_reached engine (Nat.le_of_lt hlater) hat.at_place
  have hfirst := deactivated_history_one engine hevent hmethod hsuccess hid hat
  refine ⟨id, place, document, hid, hat, hkept, ?_, ?_⟩
  · intro later hlater hnot reader fresh list hreader hlist hhides hlistSuccess
    have hdeactivated : Deactivated id
        (history engine events schema.collection count (later - count) document) := by
      refine deactivated_history engine hfirst (by omega) ?_
      rw [Nat.add_sub_cancel' (Nat.le_of_lt hlater)]
      exact hnot
    -- A list of the later store is the list of the documents that it holds.
    have hlisted : response engine reader fresh list (reached engine events later)
        = listed engine reader (reached engine events later) (.ofRequest list)
          ((reached engine events later).collection schema.collection).documents := by
      unfold response
      rw [answer_of_isList _ _ _ hlist, list_run, hreader]
    -- The document at the place does not satisfy the criteria, so that it might as well be missing.
    rw [hlisted] at hlistSuccess ⊢
    exact listed_eraseIdx engine reader _ (hkept later hlater)
      (hdeactivated.inactive.answer_eq_false hhides.get?_effectiveCriteria) hlistSuccess
  · intro again fresh repeated hagain hrepeated hrepeatedId
    -- Right afterwards the document is found again and does not change any more.
    obtain ⟨previous, hupdate⟩ := houtcome.update_of_delete hmethod hsuccess hid
    obtain ⟨hagainResponse, hintact⟩ :=
      response_deactivation_again engine hupdate hagain fresh hrepeated hrepeatedId
    rw [reached_succ engine hevent]
    exact ⟨hagainResponse.trans hresponse.symm, hintact⟩

/-- An item is inserted and deactivated, and then a field inside its activity is changed. -/
def deactivatingRun : List Event :=
  [.request (.ofFields "items" []) ObjectId.ofNat
      ((Request.ofMethod "POST").withJsonContent.withBody
        (.obj [("_id", .str "64b7f3a2c9e77a0000000001")])),
    .request (.ofFields "items" []) ObjectId.ofNat
      ((Request.ofMethod "DELETE").withParam "id" "64b7f3a2c9e77a0000000001"),
    .request (.ofFields "items" []) ObjectId.ofNat
      ((Request.ofMethod "PATCH").withJsonContent.withParam "id" "64b7f3a2c9e77a0000000001"
        |>.withBody (.obj [("isActive.x", .bool true)]))]

/-- At the end of this run the list is that of no items. -/
theorem hidden_of_deactivated_deactivatingRun :
    response .withoutPatterns (.ofFields "items" []) ObjectId.ofNat (.ofMethod "GET")
        (reached .withoutPatterns deactivatingRun 3)
      = listed .withoutPatterns (.ofFields "items" []) (reached .withoutPatterns deactivatingRun 3)
          (.ofRequest (.ofMethod "GET")) [] := by
  obtain ⟨id, place, document, -, hhidden⟩ :=
    hidden_of_deactivated .withoutPatterns deactivatingRun 1 _ _ _ rfl rfl (by decide +kernel)
  -- The only item is the one that was deactivated.
  have hlength : ((reached .withoutPatterns deactivatingRun 3).collection "items").documents.length
      = 1 := by
    decide +kernel
  obtain ⟨item, hitems⟩ := List.length_eq_one_iff.mp hlength
  have hplace : place = 0 := by
    have hlt := (List.getElem?_eq_some_iff.mp (hhidden.kept 3 (by decide))).1
    change place < ((reached .withoutPatterns deactivatingRun 3).collection "items").documents.length
      at hlt
    omega
  have hothers : ((reached .withoutPatterns deactivatingRun 3).collection "items").documents.eraseIdx
      place = [] := by
    rw [hitems, hplace]
    rfl
  rw [← hothers]
  refine hhidden.hidden 3 (by decide) ?_ (.ofFields "items" []) ObjectId.ofNat (.ofMethod "GET") rfl
    ⟨rfl, rfl⟩ ⟨?_, ?_⟩ (by decide +kernel)
  · -- The only request in between names a field inside activity, but not activity itself.
    intro between schema ids request hcount hlater hevent
    obtain rfl : between = 2 := by omega
    cases hevent
    rintro ⟨-, -, -, -, fields, hbody, hmem⟩
    cases hbody
    exact absurd hmem (by decide)
  · intro text htext
    cases htext
  · decide +kernel

end Service

end DocumentApi
