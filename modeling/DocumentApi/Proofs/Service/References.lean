import DocumentApi.Proofs.Schema.References
import DocumentApi.Proofs.Service.Writes

/-!
# References along runs

A collection `KeepsReferences` of a schema if every field that the schema declares as a reference
holds an identifier, null or a list of both in every document that has it. Consider a run in which
the collection is written through this schema only (`Service.WritesThrough`), whose reference fields
start with references if they start with a value.

* `Service.keepsReferences_iff` — in all stores of the run the collection keeps references, if and
  only if no request overwrites one (`Service.OverwritesReference`);
* `Service.not_keepsReferences` — requests can do so.

Bodies are read by the names of their fields and changes are made at dotted paths. A body field
whose name is a path into a reference is none of the reference fields, so its value is not read as a
reference, and the change puts a document in the place of the reference, unless a later change of
the same body gives the reference itself a value again. Insertions know of no paths.
-/

namespace DocumentApi

namespace Collection

/-- Whether all documents of a collection keep the references of a schema. -/
def KeepsReferences (schema : Schema) (collection : Collection) : Prop :=
  ∀ document ∈ collection.documents, document.KeepsReferences schema

variable {schema : Schema} {collection : Collection}

theorem keepsReferences_empty : Collection.empty.KeepsReferences schema :=
  fun _ hmem => absurd hmem List.not_mem_nil

theorem KeepsReferences.insertAll (h : collection.KeepsReferences schema) {name : String}
    {documents : List Document}
    (hdocuments : ∀ document ∈ documents, document.KeepsReferences schema) :
    (collection.insertAll name documents).2.KeepsReferences schema := by
  refine insertAll_induction h ?_
  intro before after document hmem hinsert hbefore other hother
  obtain ⟨-, -, rfl⟩ := insert_eq_ok hinsert
  -- Insertion appends, so a document of the result is an old one or the inserted one.
  rcases List.mem_append.mp hother with hold | hnew
  · exact hbefore other hold
  · rw [List.mem_singleton.mp hnew]
    exact hdocuments document hmem

end Collection

namespace Service

open Operation

/-- Whether a request, answered like this, overwrites a reference: it is a change that is carried
out and ends inside a reference field, or a deactivation that is carried out although the flag of
activity is declared as a reference. -/
inductive OverwritesReference (schema : Schema) (request : Request) (response : Response) : Prop
  | change {fields : Fields Json} {changes : Fields Bson} (hmethod : request.method = "PATCH")
      (hstatus : response.status = Status.ok) (hbody : request.body = some (.obj fields))
      (hchanges : schema.changes fields = .ok changes)
      (hinside : Document.ChangesInsideReference schema changes)
  | deactivation (hmethod : request.method = "DELETE") (hstatus : response.status = Status.ok)
      (hactive : (schema.reference? Schema.activeField).isSome)

section Request

variable {schema : Schema} {ids : Nat → ObjectId} {request : Request} {store after : Store}
  {response : Response}

/-- A deactivation keeps references, unless the flag of activity is declared as one. -/
theorem keepsReferences_deactivation {document : Document} (h : document.KeepsReferences schema)
    (hactive : ¬ (schema.reference? Schema.activeField).isSome) :
    (document.applyChanges deactivation).KeepsReferences schema := by
  rw [Document.applyChanges_deactivation]
  -- The flag of activity is the only field that is written, and it is none of the references.
  intro name value hname hvalue
  have hne : Schema.activeField ≠ name := by
    rintro rfl
    exact hactive hname
  rw [Fields.get?_insert_of_ne hne] at hvalue
  exact h name value hname hvalue

/-- A change that is carried out leaves all documents but the changed one as they are. -/
theorem mem_documents_of_update {name : String} {id : ObjectId} {changes : Fields Bson}
    {returning : Returning} {answer : Document}
    (h : store.update id changes returning name = (.ok (some answer), after)) :
    ∃ before ∈ (store.collection name).documents,
      before.applyChanges changes ∈ (after.collection name).documents ∧
      ∀ document ∈ (after.collection name).documents,
        document ∈ (store.collection name).documents ∨ document = before.applyChanges changes := by
  obtain ⟨place, before, -, hbefore, -, -, hset, -⟩ := Store.update_eq_ok h
  rw [hset]
  exact ⟨before, List.mem_of_getElem? hbefore,
    List.mem_set (List.getElem?_eq_some_iff.mp hbefore).1 _,
    fun document hmem => List.mem_or_eq_of_mem_set hmem⟩

/-- **One request** keeps references, unless it overwrites one. -/
theorem Outcome.keepsReferences (houtcome : Outcome schema ids request store response after)
    (hstart : schema.StartsWithReferences)
    (hrequest : ¬ OverwritesReference schema request response)
    (h : (store.collection schema.collection).KeepsReferences schema) :
    (after.collection schema.collection).KeepsReferences schema := by
  -- Insertions add documents that have been prepared, also if they stop in the middle.
  have hinserted : ∀ {objects : List (Fields Json)} {documents : List Document},
      prepareAll schema ids 0 objects = .ok documents →
        ((store.insertAll documents schema.collection).2.collection
          schema.collection).KeepsReferences schema := by
    intro objects documents hdocuments
    rw [Store.collection_insertAll, if_pos rfl]
    refine h.insertAll fun document hmem => ?_
    obtain ⟨fresh, object, hobject⟩ := exists_newDocument_of_mem hdocuments hmem
    exact Document.keepsReferences_of_newDocument hstart hobject
  -- By what the request did. Reading and refusals leave the store as it is.
  cases houtcome with
  | read => exact h
  | refused => exact h
  | inserted _ _ hdocuments hinsert =>
    have hkeeps := hinserted hdocuments
    rw [hinsert] at hkeeps
    exact hkeeps
  | stopped _ _ hdocuments hinsert =>
    have hkeeps := hinserted hdocuments
    rw [hinsert] at hkeeps
    exact hkeeps
  | changed hmethod _ hbody hchanges hupdate =>
    obtain ⟨before, hbefore, -, hdocuments⟩ := mem_documents_of_update hupdate
    -- This is a change at paths of the body, so it may overwrite a reference only from inside.
    have hinside : ¬ Document.ChangesInsideReference schema _ :=
      fun hinside => hrequest (.change hmethod rfl hbody hchanges hinside)
    intro document hmem
    rcases hdocuments document hmem with hold | rfl
    · exact h document hold
    · exact (h before hbefore).applyChanges hchanges hinside
  | deactivated hmethod _ hupdate =>
    obtain ⟨before, hbefore, -, hdocuments⟩ := mem_documents_of_update hupdate
    -- All documents are old ones, but the deactivated one.
    intro document hmem
    rcases hdocuments document hmem with hold | rfl
    · exact h document hold
    · exact keepsReferences_deactivation (h before hbefore)
        fun hactive => hrequest (.deactivation hmethod rfl hactive)

/-- **Overwriting a reference** leaves a document that does not keep references. -/
theorem Outcome.not_keepsReferences (houtcome : Outcome schema ids request store response after)
    (hrequest : OverwritesReference schema request response) :
    ¬ (after.collection schema.collection).KeepsReferences schema := by
  have hstatus : response.status = Status.ok := by
    -- Both ways of overwriting carry their method, which excludes all outcomes but a change and a
    -- deactivation.
    cases hrequest <;> assumption
  have hmethods : request.method = "PATCH" ∨ request.method = "DELETE" := by
    cases hrequest with
    | change hpatch => exact Or.inl hpatch
    | deactivation hdelete => exact Or.inr hdelete
  have hsuccess := isSuccess_of_status (Or.inl hstatus)
  intro hkeeps
  cases houtcome with
  | read hget => simp [hget] at hmethods
  | refused hfailed =>
    rw [hfailed] at hsuccess
    cases hsuccess
  | inserted hpost => simp [hpost] at hmethods
  | stopped hpost => simp [hpost] at hmethods
  | changed hpatch _ hbody hchanges hupdate =>
    obtain ⟨before, -, hafter, -⟩ := mem_documents_of_update hupdate
    cases hrequest with
    | change _ _ hbody' hchanges' hinside =>
      -- The changes are those of the one body.
      rw [hbody, Option.some.injEq, Json.obj.injEq] at hbody'
      rw [← hbody', hchanges, Except.ok.injEq] at hchanges'
      rw [← hchanges'] at hinside
      exact Document.not_keepsReferences_applyChanges hinside before (hkeeps _ hafter)
    | deactivation hdelete => exact absurd (hpatch.symm.trans hdelete) (by decide)
  | deactivated hdelete _ hupdate =>
    obtain ⟨before, -, hafter, -⟩ := mem_documents_of_update hupdate
    cases hrequest with
    | change hpatch => exact absurd (hdelete.symm.trans hpatch) (by decide)
    | deactivation _ _ hactive =>
      -- The flag is `false` now, and a boolean is no reference.
      rw [Document.applyChanges_deactivation] at hafter
      exact Bson.not_holdsReferences_bool false
        (hkeeps _ hafter Schema.activeField _ hactive (Fields.get?_insert_self _ _ _))

end Request

variable (engine : StoreEngine)

/-! ### Runs -/

/-- Whether the collection of a schema is written through this schema only. -/
def WritesThrough (events : List Event) (schema : Schema) : Prop :=
  ∀ other ids request, Event.request other ids request ∈ events →
    other.collection = schema.collection → request.method ∈ writingMethods → other = schema

/-- **One event** keeps references, unless it is a request that overwrites one. -/
theorem Event.keepsReferences_after {store : Store} {schema : Schema} {event : Event}
    (hwrites : ∀ other ids request, event = .request other ids request →
      other.collection = schema.collection → request.method ∈ writingMethods → other = schema)
    (hstart : schema.StartsWithReferences)
    (hevent : ∀ ids request, event = .request schema ids request →
      ¬ OverwritesReference schema request (response engine schema ids request store))
    (h : (store.collection schema.collection).KeepsReferences schema) :
    ((event.after engine store).collection schema.collection).KeepsReferences schema := by
  cases event with
  -- The creation of indexes changes no document.
  | init other =>
    unfold Collection.KeepsReferences
    rw [documents_init]
    exact h
  | request other ids request =>
    have houtcome : Outcome other ids request store (response engine other ids request store)
        ((Event.request other ids request).after engine store) :=
      outcome engine other ids store request
    -- A request counts only if it writes, and writes to this collection; then it is one of the
    -- schema.
    by_cases hcollection : other.collection = schema.collection
    · by_cases hmethod : request.method ∈ writingMethods
      · obtain rfl := hwrites other ids request rfl hcollection hmethod
        exact houtcome.keepsReferences hstart (hevent ids request rfl) h
      · rw [houtcome.eq_of_notMem hmethod]
        exact h
    · rw [houtcome.collection_of_ne hcollection]
      exact h

/-- **Reference fields stay references** exactly as long as no request overwrites one. Take a run of
a service on the empty store in which a collection is written through one schema only, whose
reference fields start with references if they start with a value. In all stores of the run every
reference field of every document of the collection holds an identifier, null or a list of both, if
and only if no change that is carried out ends inside a reference field, and no deactivation is
carried out if the flag of activity is declared as a reference. -/
theorem keepsReferences_iff {schema : Schema} {events : List Event}
    (hwrites : WritesThrough events schema) (hstart : schema.StartsWithReferences) :
    (∀ count,
      ((reached engine events count).collection schema.collection).KeepsReferences schema) ↔
    ∀ (count : Nat) (ids : Nat → ObjectId) (request : Request),
      events[count]? = some (.request schema ids request) →
        ¬ OverwritesReference schema request
          (response engine schema ids request (reached engine events count)) := by
  constructor
  · -- The store after the request has a document that does not keep references.
    intro h count ids request hevent hoverwrites
    refine (outcome engine schema ids (reached engine events count) request).not_keepsReferences
      hoverwrites ?_
    have hkeeps := h (count + 1)
    rw [reached_succ engine hevent] at hkeeps
    exact hkeeps
  · intro hevents count
    -- Every store of the run is reached by one event more, and the empty one has no documents.
    refine Store.reached_induction (Event.after engine)
      (motive := fun store => (store.collection schema.collection).KeepsReferences schema)
      Collection.keepsReferences_empty ?_ count
    intro earlier event hevent hearlier
    refine event.keepsReferences_after engine ?_ hstart ?_ hearlier
    · rintro other ids request rfl
      exact hwrites other ids request (List.mem_of_getElem? hevent)
    · rintro ids request rfl
      exact hevents earlier ids request hevent

/-- Kits, of which each refers to a part. -/
def kitSchema : Schema :=
  .ofFields "kits" [{ name := "part", target := some (.ofFields "parts" []) }]

/-- A kit is inserted, and then changed by a body. -/
def changedKit (body : Fields Json) : List Event :=
  [.request kitSchema .ofNat
      ((Request.ofMethod "POST").withJsonContent.withBody
        (.obj [("_id", .str "64b7f3a2c9e77a0000000001"),
          ("part", .str "64b7f3a2c9e77a0000000002")])),
    .request kitSchema .ofNat
      (((Request.ofMethod "PATCH").withJsonContent.withParam "id" "64b7f3a2c9e77a0000000001").withBody
        (.obj body))]

/-- The kits are written through their schema only. -/
theorem writesThrough_changedKit (body : Fields Json) :
    WritesThrough (changedKit body) kitSchema := by
  intro other ids request hmem _ _
  simp only [changedKit, List.mem_cons, List.not_mem_nil, or_false, Event.request.injEq] at hmem
  exact hmem.elim And.left And.left

/-- The part of a kit starts with no value. -/
theorem startsWithReferences_kitSchema : kitSchema.StartsWithReferences := by
  have hdefaults : kitSchema.defaults = [(Schema.activeField, .bool true)] := rfl
  unfold Schema.StartsWithReferences
  rw [hdefaults, List.forall_mem_singleton]
  intro hactive
  cases hactive

/-- A kit has no other references than its part. -/
theorem eq_part_of_reference? {name : String} (h : (kitSchema.reference? name).isSome) :
    name = "part" := by
  by_contra hname
  have hpart : ("part" == name) = false := beq_eq_false_iff_ne.mpr (Ne.symm hname)
  have hfields : kitSchema.fields
      = [Schema.activeFlag, { name := "part", target := some (.ofFields "parts" []) }] := rfl
  unfold Schema.reference? Schema.field? at h
  rw [hfields, List.find?_cons, List.find?_cons, hpart] at h
  -- The flag of activity is no reference.
  cases hactive : Schema.activeFlag.name == name <;> rw [hactive] at h <;> cases h

/-- A body may name a path into the part of a kit, if it gives the part itself a value behind it. -/
theorem keepsReferences_iff_changedKit :
    ((reached .withoutPatterns (changedKit [("part.x", .int 1), ("part", .null)]) 2).collection
      "kits").KeepsReferences kitSchema := by
  refine (keepsReferences_iff .withoutPatterns (writesThrough_changedKit _)
    startsWithReferences_kitSchema).mpr ?_ 2
  intro count ids request hevent hoverwrites
  -- Both requests of the run are written out; only the second one is a change.
  have hmem := List.mem_of_getElem? hevent
  simp only [changedKit, List.mem_cons, List.not_mem_nil, or_false, Event.request.injEq, true_and]
    at hmem
  rcases hmem with ⟨rfl, rfl⟩ | ⟨rfl, rfl⟩
  · -- An insertion overwrites nothing.
    cases hoverwrites with
    | change hmethod => exact absurd hmethod (by decide)
    | deactivation hmethod => exact absurd hmethod (by decide)
  · cases hoverwrites with
    | change _ _ hbody hchanges hinside =>
      cases hbody
      cases hchanges
      obtain ⟨name, change, hname, hlast, hleads⟩ := hinside
      obtain rfl := eq_part_of_reference? hname
      -- The last change that touches the part names it.
      have hsegments : segments "part" = ["part"] := by decide
      have hchange : change.1 = "part" := by
        have hlastName := congrArg (Option.map Prod.fst) hlast
        rw [Option.map_some] at hlastName
        exact Option.some.inj (hlastName.symm.trans (by decide +kernel))
      rw [hchange] at hleads
      exact Document.not_leadsInto hsegments _ hleads
    | deactivation hmethod => exact absurd hmethod (by decide)

/-- **A reference can be overwritten**, by a change at a path into it. -/
theorem not_keepsReferences : ¬ ∀ engine schema events, WritesThrough events schema →
    schema.StartsWithReferences → ∀ count,
      ((reached engine events count).collection schema.collection).KeepsReferences schema := by
  intro h
  have hkeeps := h .withoutPatterns kitSchema (changedKit [("part.x", .int 1)])
    (writesThrough_changedKit _) startsWithReferences_kitSchema 2
  -- The part of the kit is a document with a field `x` now.
  have hinside : (((reached .withoutPatterns (changedKit [("part.x", .int 1)]) 2).collection
      "kits").documents.head?.bind (Fields.get? · "part")).bind (Bson.field? "x") |>.isSome := by
    decide +kernel
  obtain ⟨inside, hinside⟩ := Option.isSome_iff_exists.mp hinside
  obtain ⟨value, hvalue, hfield⟩ := Option.bind_eq_some_iff.mp hinside
  obtain ⟨kit, hkit, hpart⟩ := Option.bind_eq_some_iff.mp hvalue
  cases value with
  | document fields =>
    exact Bson.not_holdsReferences_document fields
      (hkeeps kit (List.mem_of_head? hkit) "part" _ rfl hpart)
  | _ => cases hfield

end Service

end DocumentApi
