import DocumentApi.Pattern
import DocumentApi.Proofs.Service.Agreement
import DocumentApi.Proofs.Store.Selecting

/-!
# When a list is answered

A list request may hold any text in any of its parameters. All of them are read in some way: blank
and malformed parts of the criteria are skipped, a page that makes no sense is no page, and fields,
references and sort keys that are not there are passed over. What is left is a pattern that does not
compile, and this is a failure of the server:

* `Service.list_answered_iff` — as long as the sort keys put what is listed in order, a list request
  is answered with an envelope if and only if the collection is empty or all patterns of its criteria
  compile. Otherwise it is answered, whatever the sort keys are, with a message about the first
  pattern that does not compile and about the reason for this;
* `Service.not_listsAlwaysAnswered` — an opening bracket is such a pattern.
-/

namespace DocumentApi

namespace Service

variable (engine : StoreEngine) (schema : Schema) (ids : Nat → ObjectId) (store : Store)

/-- The patterns that a list request asks for. -/
def listPatterns (request : Request) : List String :=
  (Criteria.ofQuery (Listing.textParam request "q")).patterns

/-- The documents that a list request asks for. -/
def listDocuments (request : Request) : List Document :=
  Matching.satisfying engine (Listing.ofRequest request).effectiveCriteria
    (store.collection schema.collection).documents

/-- The response to a list request that asks for a pattern which does not compile for a reason. -/
def invalidPatternResponse (text reason : String) : Response :=
  .withBody Status.serverError (.obj [("type", .str ""), ("message", .str ("Backend error: " ++
    ("invalid pattern " ++ Text.Quoted.quote text ++ ": " ++ reason)))])

/-- The question for active documents asks for no pattern, so that the patterns are those of `q`. -/
theorem patterns_effectiveCriteria_ofRequest (request : Request) :
    (Listing.ofRequest request).effectiveCriteria.patterns = listPatterns request :=
  Listing.patterns_effectiveCriteria _

variable {engine schema ids store} {request : Request}

/-- A pattern that does not compile is a failure of the list as soon as there is a document. -/
theorem response_of_firstFailure? (hlist : request.IsList) {failure : StoreError}
    (hdocuments : (store.collection schema.collection).documents ≠ [])
    (hfirst : Matching.firstFailure? engine (listPatterns request) = some failure) :
    response engine schema ids request store = Operation.failed failure := by
  have hfailure : Matching.failure? (Matching.filter engine
      (Listing.ofRequest request).effectiveCriteria (store.collection schema.collection).documents)
        = some failure := by
    -- Only the patterns of the query can fail, and only on a document.
    rw [Matching.failure?_filter, if_neg hdocuments, patterns_effectiveCriteria_ofRequest, hfirst]
  unfold response
  rw [answer_of_isList _ _ _ hlist, Operation.list_run, Operation.listed]
  -- The documents are matched before anything else is done.
  cases hmatched : Matching.filter engine (Listing.ofRequest request).effectiveCriteria
      (store.collection schema.collection).documents with
  | error other =>
    rw [hmatched, Matching.failure?, Option.some.injEq] at hfailure
    rw [hfailure]
  | ok matched =>
    rw [hmatched] at hfailure
    cases hfailure

/-- A list without such a pattern has an envelope if its documents can be sorted. -/
theorem exists_envelope_of_ordered (hlist : request.IsList)
    (hvalid : (store.collection schema.collection).documents = [] ∨
      ∀ text ∈ listPatterns request, (engine.compile? text).isSome)
    (hordered : Document.Ordered (Listing.ofRequest request).sort.keys
      (listDocuments engine schema store request)) :
    ∃ envelope : Envelope Json,
      response engine schema ids request store = .withBody Status.ok envelope.toJson := by
  -- What is found is what satisfies the criteria, since no pattern fails.
  have hmatched : Matching.filter engine (Listing.ofRequest request).effectiveCriteria
      (store.collection schema.collection).documents
        = .ok (listDocuments engine schema store request) := by
    rcases hvalid with hempty | hall
    · -- Nothing is compiled for no document.
      rw [listDocuments, hempty]
      rfl
    · rw [← patterns_effectiveCriteria_ofRequest] at hall
      exact Matching.filter_eq_satisfying _ hall
  have harranged : engine.arrange (Listing.ofRequest request).sort.keys
      (listDocuments engine schema store request) = .ok _ := engine.arrange_eq hordered
  unfold response
  rw [answer_of_isList _ _ _ hlist, Operation.list_run]
  simp only [Operation.listed, hmatched, harranged]
  exact ⟨_, rfl⟩

/-- A pattern that does not compile is reported as soon as there is a document, and it is the first
one of its kind. -/
theorem exists_invalidPatternResponse (hlist : request.IsList)
    (hdocuments : (store.collection schema.collection).documents ≠ [])
    (hpatterns : ¬ ∀ text ∈ listPatterns request, (engine.compile? text).isSome) :
    ∃ before text after reason, listPatterns request = before ++ text :: after ∧
      (∀ other ∈ before, (engine.compile? other).isSome) ∧
      engine.compile text = .error reason ∧
      response engine schema ids request store = invalidPatternResponse text reason := by
  rw [← Matching.firstFailure?_eq_none_iff] at hpatterns
  obtain ⟨failure, hfirst⟩ := Option.ne_none_iff_exists'.mp hpatterns
  -- The failure is the message about the first pattern that does not compile.
  obtain ⟨before, text, after, reason, hsplit, hbefore, hcompile, rfl⟩ :=
    Matching.firstFailure?_eq_some hfirst
  exact ⟨before, text, after, reason, hsplit, hbefore, hcompile,
    response_of_firstFailure? hlist hdocuments hfirst⟩

/-- A failure of the server is no envelope. -/
theorem invalidPatternResponse_ne (text reason : String) (envelope : Envelope Json) :
    invalidPatternResponse text reason ≠ .withBody Status.ok envelope.toJson := by
  intro h
  have hstatus : Status.serverError = Status.ok := congrArg Response.status h
  cases hstatus

variable (engine schema ids store)

/-- **When a list is answered.** Whatever the texts of its parameters are, and as long as the sort
keys put the documents that are asked for in order, a list request on a store in memory is answered
with an envelope if and only if the collection is empty or all patterns of its criteria compile.
Otherwise, in any order, the response says which of the patterns is the first one that does not
compile, and why. -/
theorem list_answered_iff {request : Request} (hlist : request.IsList) :
    (Document.Ordered (Listing.ofRequest request).sort.keys
        (listDocuments engine schema store request) →
      ((∃ envelope : Envelope Json, response engine schema ids request store
          = .withBody Status.ok envelope.toJson) ↔
        (store.collection schema.collection).documents = [] ∨
          ∀ text ∈ listPatterns request, (engine.compile? text).isSome)) ∧
    (¬ ((store.collection schema.collection).documents = [] ∨
        ∀ text ∈ listPatterns request, (engine.compile? text).isSome) →
      ∃ before text after reason, listPatterns request = before ++ text :: after ∧
        (∀ other ∈ before, (engine.compile? other).isSome) ∧
        engine.compile text = .error reason ∧
        response engine schema ids request store = invalidPatternResponse text reason) := by
  refine ⟨fun hordered => ⟨?_, fun hvalid => exists_envelope_of_ordered hlist hvalid hordered⟩, ?_⟩
  · -- If it is answered by an envelope then no failure was reported.
    rintro ⟨envelope, hanswered⟩
    by_contra h
    obtain ⟨hdocuments, hpatterns⟩ := not_or.mp h
    obtain ⟨_, text, _, reason, -, -, -, hresponse⟩ :=
      exists_invalidPatternResponse hlist hdocuments hpatterns
    exact invalidPatternResponse_ne text reason envelope (hresponse.symm.trans hanswered)
  · -- There is a document, and a pattern that fails on it.
    intro h
    obtain ⟨hdocuments, hpatterns⟩ := not_or.mp h
    exact exists_invalidPatternResponse hlist hdocuments hpatterns

/-- Whether every list request on every store that can be reached is answered with an envelope. -/
def ListsAlwaysAnswered : Prop :=
  ∀ (schema : Schema) (ids : Nat → ObjectId) (store : Store) (request : Request),
    store.Reachable engine → request.IsList →
      ∃ envelope : Envelope Json, response engine schema ids request store
        = .withBody Status.ok envelope.toJson

/-- A document with a code is inserted. -/
def oneCode : List Event :=
  [.request (.ofFields "items" []) .ofNat
    ((Request.ofMethod "POST").withJsonContent.withBody (.obj [("code", .str "abc")]))]

/-- A list of the documents whose code matches a pattern. -/
def listByCode (pattern : String) : Request :=
  (Request.ofMethod "GET").withQuery "q" ("code:" ++ pattern)

/-- What is said about a group that has no end. -/
def unclosedGroup : String :=
  "regex parse error:\n    (\n    ^\nerror: unclosed group"

/-- An engine that words what is wrong with an opening bracket. -/
def bracketEngine : StoreEngine :=
  .ofPatterns (Pattern.engine fun _ => unclosedGroup)

/-- A pattern of digits is answered with an envelope, and an opening bracket is not. -/
theorem list_answered_iff_oneCode :
    (∃ envelope : Envelope Json,
      response bracketEngine (.ofFields "items" []) .ofNat (listByCode "[0-9]+")
        (reached bracketEngine oneCode 1) = .withBody Status.ok envelope.toJson) ∧
    response bracketEngine (.ofFields "items" []) .ofNat (listByCode "(")
      (reached bracketEngine oneCode 1) = invalidPatternResponse "(" unclosedGroup := by
  have hlist : ∀ pattern, (listByCode pattern).IsList := fun _ => ⟨rfl, rfl⟩
  have hdigits : listPatterns (listByCode "[0-9]+") = ["[0-9]+"] := by decide +kernel
  have hbracket : listPatterns (listByCode "(") = ["("] := by decide +kernel
  have hcompiles : (bracketEngine.compile? "[0-9]+").isSome := by decide +kernel
  have hfails : bracketEngine.compile "(" = .error unclosedGroup := rfl
  have hdocuments : ((reached bracketEngine oneCode 1).collection "items").documents.length
      = 1 := by decide +kernel
  constructor
  · -- Without sort keys everything is in order.
    have hordered : Document.Ordered (Listing.ofRequest (listByCode "[0-9]+")).sort.keys
        (listDocuments bracketEngine (.ofFields "items" []) (reached bracketEngine oneCode 1)
          (listByCode "[0-9]+")) := Document.ordered_nil _
    refine ((list_answered_iff bracketEngine (.ofFields "items" []) .ofNat
      (reached bracketEngine oneCode 1) (hlist "[0-9]+")).1 hordered).mpr (Or.inr ?_)
    rw [hdigits]
    exact List.forall_mem_singleton.mpr hcompiles
  · -- The bracket is compiled, as there is a document to match.
    have hnot : ¬ (((reached bracketEngine oneCode 1).collection "items").documents = [] ∨
        ∀ text ∈ listPatterns (listByCode "("), (bracketEngine.compile? text).isSome) := by
      rintro (hempty | hall)
      · rw [hempty] at hdocuments
        cases hdocuments
      · rw [hbracket, List.forall_mem_singleton, PatternEngine.compile?, hfails] at hall
        cases hall
    obtain ⟨before, text, after, reason, hsplit, -, hreason, hresponse⟩ :=
      (list_answered_iff bracketEngine (.ofFields "items" []) .ofNat
        (reached bracketEngine oneCode 1) (hlist "(")).2 hnot
    -- There is only one pattern that the message can be about.
    rw [hbracket] at hsplit
    obtain ⟨rfl, rfl, -⟩ | ⟨_, _, h⟩ := List.singleton_eq_append_iff.mp hsplit
    rw [hfails, Except.error.injEq] at hreason
    rw [hresponse, hreason]

/-- **Some lists are not answered**: one of a store with a document, for the pattern of an opening
bracket. -/
theorem not_listsAlwaysAnswered : ¬ ListsAlwaysAnswered bracketEngine := by
  intro h
  obtain ⟨envelope, hanswered⟩ := h (.ofFields "items" []) .ofNat
    (reached bracketEngine oneCode 1) (listByCode "(") (reachable_reached bracketEngine oneCode 1)
    ⟨rfl, rfl⟩
  have hfailed : (response bracketEngine (.ofFields "items" []) .ofNat (listByCode "(")
      (reached bracketEngine oneCode 1)).status = Status.serverError := by decide +kernel
  rw [hanswered] at hfailed
  have hstatus : Status.ok = Status.serverError := hfailed
  cases hstatus

end Service

end DocumentApi
