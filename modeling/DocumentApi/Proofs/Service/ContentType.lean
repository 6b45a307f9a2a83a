import DocumentApi.Proofs.Service.Agreement
import DocumentApi.Proofs.Service.Failure
import DocumentApi.Proofs.Text.Casing
import DocumentApi.Proofs.Text.Pieces

/-!
# Content types of writes

Insertions and changes are for requests with JSON content. A content type **declares** JSON if its
media type, which is all that stands before its parameters, is that of JSON; it **mentions** JSON if
the media type of JSON stands anywhere in it, even in a parameter of another type or as a part of a
longer name. The check of writes asks for the latter.

* `Request.checkContentType_eq_ok_iff` — the check lets through what mentions JSON;
* `Service.answered_by_contentType` — so a write that does not mention JSON is refused as malformed
  before the store is touched, and any other one is answered as if it declared JSON;
* `Service.not_refusesOtherContent` — which a plain text can bring about by one of its parameters.
-/

namespace DocumentApi

namespace Request

/-- Whether a request is to insert or to change. -/
def IsWrite (request : Request) : Prop :=
  request.method = "POST" ∨ request.method = "PATCH"

/-! ### Declaring and mentioning JSON -/

/-- The media type of a content type: the text before its parameters. -/
def mediaType (contentType : String) : String :=
  Text.trim (String.ofList (contentType.toList.takeWhile (· ≠ ';')))

/-- Whether the content type can be read and its media type is that of JSON. -/
def DeclaresJson (request : Request) : Prop :=
  ∃ value, request.header? "content-type" = some value ∧
    Text.IsCasingOf (mediaType value) jsonMediaType

/-- Whether the content type can be read and the media type of JSON stands somewhere in it. -/
def MentionsJson (request : Request) : Prop :=
  ∃ value part, request.header? "content-type" = some value ∧ part <:+: value.toList ∧
    Text.IsCasingOf (String.ofList part) jsonMediaType

theorem isCasingOf_jsonMediaType_iff {text : String} : Text.IsCasingOf text jsonMediaType ↔
    text.toList.map Char.toLower = jsonMediaType.toList :=
  Text.isCasingOf_iff rfl

theorem isInfix_mediaType (contentType : String) :
    (mediaType contentType).toList <:+: contentType.toList := by
  -- Trimming and cutting at the first semicolon both leave a part of the text.
  unfold mediaType Text.trim
  rw [String.toList_ofList, String.toList_ofList]
  exact (Text.isInfix_trimChars _).trans (List.takeWhile_prefix _).isInfix

theorem DeclaresJson.mentionsJson {request : Request} (h : request.DeclaresJson) :
    request.MentionsJson := by
  obtain ⟨value, hvalue, hcasing⟩ := h
  exact ⟨value, _, hvalue, isInfix_mediaType value, by rwa [String.ofList_toList]⟩

/-! ### The check -/

theorem occursIn_iff {part cs : List Char} : occursIn part cs = true ↔ part <:+: cs := by
  -- By the place at which the part stands: at the front, or in the rest.
  induction cs with
  | nil => rw [occursIn, List.isEmpty_iff, List.infix_nil]
  | cons c rest ih =>
    rw [occursIn, Bool.or_eq_true, List.isPrefixOf_iff_prefix, ih, List.infix_cons_iff]

/-- **The check of the content type** lets through what mentions JSON. -/
theorem checkContentType_eq_ok_iff {request : Request} :
    request.checkContentType = .ok () ↔ request.MentionsJson := by
  unfold checkContentType MentionsJson
  cases request.header? "content-type" with
  | none => simp
  | some value =>
    have hoccurs : occursIn jsonMediaType.toList (value.toList.map Char.toLower) = true ↔
        ∃ part, part <:+: value.toList ∧ Text.IsCasingOf (String.ofList part) jsonMediaType := by
      -- Lower case is taken character by character, so a part of the text in lower case is the
      -- lower case of a part of the text.
      rw [occursIn_iff, List.infix_map_iff]
      refine exists_congr fun part => and_congr_right fun _ => ?_
      rw [isCasingOf_jsonMediaType_iff, String.toList_ofList, eq_comm]
    simp [← hoccurs]

theorem checkContentType_of_not_mentionsJson {request : Request} (h : ¬ request.MentionsJson) :
    request.checkContentType = .error .invalid :=
  request.checkContentType_cases.resolve_right fun hok => h (checkContentType_eq_ok_iff.mp hok)

theorem declaresJson_withJsonContent (request : Request) :
    request.withJsonContent.DeclaresJson := by
  -- Writing the header under the name that it is read by.
  have hname : headerName? "content-type" = some "content-type" := by decide
  refine ⟨jsonMediaType, ?_, isCasingOf_jsonMediaType_iff.mpr (by decide)⟩
  have hheaders : request.withJsonContent.headers
      = Fields.insert request.headers "content-type" jsonMediaType := by
    unfold withJsonContent withHeader
    rw [hname]
    simp only
    rw [if_pos (by decide)]
  unfold header?
  rw [hname, hheaders, Option.bind_some, Fields.get?_insert_self]
  decide

/-- Nothing but the headers is changed by declaring JSON. -/
theorem rest_withJsonContent (request : Request) :
    request.withJsonContent.method = request.method ∧
      request.withJsonContent.params = request.params ∧
      request.withJsonContent.body = request.body := by
  unfold withJsonContent withHeader
  -- The header is written only if its name can be one, and its value can stand in a header.
  split
  · split
    · exact ⟨rfl, rfl, rfl⟩
    · exact ⟨rfl, rfl, rfl⟩
  · exact ⟨rfl, rfl, rfl⟩

/-- What mentions JSON passes the checks of writes like what declares it. -/
theorem MentionsJson.checkWrite_eq {request : Request} (h : request.MentionsJson) :
    request.checkWrite = request.withJsonContent.checkWrite := by
  have hdeclared := request.declaresJson_withJsonContent.mentionsJson
  -- Only the verdict of the first check and the body are read.
  unfold checkWrite
  rw [checkContentType_eq_ok_iff.mpr h, checkContentType_eq_ok_iff.mpr hdeclared]
  unfold checkBody
  rw [request.rest_withJsonContent.2.2]

end Request

namespace Service

variable (engine : StoreEngine) (schema : Schema) (ids : Nat → ObjectId) (request : Request)
  (store : Store)

/-! ### Writes -/

/-- The answer to a malformed request. -/
def malformed : Response :=
  .withBody Status.badRequest (.obj [("type", .str "invalid")])

/-- A write that fails its checks is refused before the store is touched. -/
theorem run_of_checkWrite_error {request : Request} (hwrite : request.IsWrite)
    (h : request.checkWrite = .error .invalid) :
    (answer (.inMemory engine) schema ids request).run store = (malformed, store) := by
  unfold answer
  -- Either operation starts with the check, and stops at its error.
  rcases hwrite with hpost | hpatch
  · simp only [hpost]
    rw [Operation.create_run, h]
    rfl
  · simp only [hpatch]
    rw [Operation.change_run, h]
    rfl

/-- Writes that differ in their headers alone are answered alike if the checks come to the same. -/
theorem run_eq_of_checkWrite {request other : Request} (hwrite : request.IsWrite)
    (hmethod : other.method = request.method) (hparams : other.params = request.params)
    (hcheck : request.checkWrite = other.checkWrite) :
    (answer (.inMemory engine) schema ids request).run store
      = (answer (.inMemory engine) schema ids other).run store := by
  unfold answer Request.param?
  rw [hmethod, hparams]
  -- The operations read the request through its check and its parameters only.
  rcases hwrite with hpost | hpatch
  · simp only [hpost]
    rw [Operation.create_run, Operation.create_run, hcheck]
  · simp only [hpatch]
    rw [Operation.change_run, Operation.change_run, hcheck]

/-- **Writes by their content type.** A request to insert or to change whose content type does not
mention JSON, be it because there is none that can be read, is answered as malformed and leaves the
store as it is. If it mentions JSON, as it does if it declares JSON, then the check lets it through,
and the request is answered as if it declared JSON. -/
theorem answered_by_contentType (hwrite : request.IsWrite) :
    (request.DeclaresJson → request.MentionsJson) ∧
      (request.checkContentType = .ok () ↔ request.MentionsJson) ∧
      (¬ request.MentionsJson →
        response engine schema ids request store = malformed ∧
          (Event.request schema ids request).after engine store = store) ∧
      (request.MentionsJson → request.withJsonContent.DeclaresJson ∧
        response engine schema ids request store
          = response engine schema ids request.withJsonContent store ∧
        (Event.request schema ids request).after engine store
          = (Event.request schema ids request.withJsonContent).after engine store) := by
  refine ⟨Request.DeclaresJson.mentionsJson, Request.checkContentType_eq_ok_iff, ?_, ?_⟩
  · -- Without a mention the check fails, so nothing else is run.
    intro hother
    have hcheck : request.checkWrite = .error .invalid := by
      unfold Request.checkWrite
      rw [Request.checkContentType_of_not_mentionsJson hother]
      rfl
    have hrun := run_of_checkWrite_error engine schema ids store hwrite hcheck
    exact ⟨congrArg Prod.fst hrun, congrArg Prod.snd hrun⟩
  · -- With a mention the two requests have the same checks.
    intro hmentions
    obtain ⟨hmethod, hparams, -⟩ := request.rest_withJsonContent
    have hrun := run_eq_of_checkWrite engine schema ids store hwrite hmethod hparams
      hmentions.checkWrite_eq
    exact ⟨request.declaresJson_withJsonContent, congrArg Prod.fst hrun, congrArg Prod.snd hrun⟩

/-- An insertion of one item with a content type. -/
def itemOf (contentType : String) : Request :=
  ((Request.ofMethod "POST").withHeader "content-type" contentType).withBody
    (.obj [("_id", .str "64b7f3a2c9e77a0000000001"), ("n", .int 1)])

/-- The content of a form is refused. -/
theorem answered_by_contentType_form :
    (itemOf "application/x-www-form-urlencoded").IsWrite ∧
      response .withoutPatterns (.ofFields "items" []) .ofNat
        (itemOf "application/x-www-form-urlencoded") oneItem = malformed := by
  have hwrite : (itemOf "application/x-www-form-urlencoded").IsWrite := Or.inl rfl
  -- The check is evaluated in place of the search for a part.
  have hother : ¬ (itemOf "application/x-www-form-urlencoded").MentionsJson := by
    rw [← Request.checkContentType_eq_ok_iff]
    decide +kernel
  exact ⟨hwrite, ((answered_by_contentType _ _ _ _ _ hwrite).2.2.1 hother).1⟩

/-- Whether all writes that do not declare JSON are answered as malformed, and leave the collections
as they are. -/
def RefusesOtherContent : Prop :=
  ∀ schema ids request store, Store.Reachable engine store → request.IsWrite →
    ¬ request.DeclaresJson → response engine schema ids request store = malformed ∧
      Intact store ((Event.request schema ids request).after engine store)

/-- **A parameter is enough.** A plain text with a parameter that names the media type of JSON is
inserted. -/
theorem not_refusesOtherContent : ¬ RefusesOtherContent .withoutPatterns := by
  intro h
  -- Its media type is the text before the semicolon, which is another one.
  have hother : ¬ (itemOf "text/plain; note=application/json").DeclaresJson := by
    rintro ⟨value, hvalue, hcasing⟩
    have hheader : (itemOf "text/plain; note=application/json").header? "content-type"
        = some "text/plain; note=application/json" := by decide +kernel
    rw [hheader, Option.some.injEq] at hvalue
    subst hvalue
    rw [Request.isCasingOf_jsonMediaType_iff] at hcasing
    revert hcasing
    decide
  obtain ⟨hmalformed, -⟩ := h (.ofFields "items" []) .ofNat _ .empty .empty (Or.inl rfl) hother
  have hcreated : (response .withoutPatterns (.ofFields "items" []) .ofNat
      (itemOf "text/plain; note=application/json") .empty).status = Status.created := by
    decide +kernel
  rw [hmalformed] at hcreated
  cases hcreated

end Service

end DocumentApi
