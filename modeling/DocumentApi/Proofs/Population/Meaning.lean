import DocumentApi.Proofs.Population.Pointwise
import DocumentApi.Proofs.Store.Identity
import Mathlib.Logic.Relation

/-!
# What a population means

Resolving references works on batches: the identifiers of all documents are collected, what they
lead to is fetched at once and resolved below before it is looked up by identifier. What comes out
is to be the meaning of a population for one document, which knows of no batches:

* `Population.populated` rewrites the fields of one document, each by the node of its name. An
  identifier becomes the document that it leads to, rewritten by the nodes below, or null; in a list
  every identifier becomes such a document or is dropped;
* `Population.perform_resolve_populated` — resolving a list of documents gives the meaning of the
  population for each of them.

The nodes are taken one after another by the program and all at once by the meaning, so siblings
have to have distinct names (`Population.DistinctPaths`). Documents are looked up among those that
have been resolved already, so resolving must not touch identifiers: no schema on the way may
declare the identifier itself as a reference (`Schema.KeepsIds`). And where two documents of a
collection had one identifier, the meaning would be the first of them and the program would take the
last, so that identifiers have to be distinct.
-/

namespace DocumentApi

/-! ### Names of fields -/

/-- Giving a field another value, where names are distinct, changes the one field of this name. -/
theorem Fields.insert_eq_map {α : Type} {fields : Fields α} (hnodup : (keys fields).Nodup)
    {key : String} {value : α} (h : get? fields key = some value) (change : α → α) :
    insert fields key (change value)
      = fields.map fun field => (field.1, if key = field.1 then change field.2 else field.2) := by
  induction fields with
  | nil => exact absurd h (by simp)
  | cons field rest ih =>
    obtain ⟨name, old⟩ := field
    rw [keys_cons, List.nodup_cons] at hnodup
    rw [get?_cons] at h
    rw [insert, List.map_cons]
    -- The field is the first one, or stands behind it.
    by_cases hname : name = key
    · -- No other field has this name.
      rw [if_pos hname, Option.some.injEq] at h
      have hrest : rest.map (fun field =>
          (field.1, if key = field.1 then change field.2 else field.2)) = rest := by
        rw [List.map_congr_left (g := id), List.map_id]
        intro other hother
        have hne : key ≠ other.1 := by
          rintro rfl
          exact hnodup.1 (hname ▸ mem_keys_of_mem hother)
        rw [if_neg hne, id_eq]
      rw [if_pos hname, hrest, hname, h, if_pos rfl]
    · rw [if_neg hname] at h
      rw [if_neg hname, ih hnodup.2 h, if_neg (Ne.symm hname)]

/-! ### References between schemas -/

namespace Schema

/-- Whether a schema has a field that refers to another schema. -/
def RefersTo (schema target : Schema) : Prop :=
  ∃ path, schema.reference? path = some target

/-- Whether neither a schema nor any that it leads to, through any number of references, declares
the identifier as a reference. -/
def KeepsIds (schema : Schema) : Prop :=
  ∀ other, Relation.ReflTransGen RefersTo schema other → other.reference? idField = none

theorem KeepsIds.reference? {schema : Schema} (h : schema.KeepsIds) :
    schema.reference? idField = none :=
  h schema .refl

/-- It is enough to look at the declared fields. -/
theorem keepsIds_of_fields {schema : Schema} (hschema : schema.reference? idField = none)
    (hfields : ∀ field ∈ schema.fields, ∀ target, field.target = some target → target.KeepsIds) :
    schema.KeepsIds := by
  intro other hother
  -- A schema is reached by no step, or through one of its own fields.
  rcases hother.cases_head with rfl | ⟨target, ⟨path, hpath⟩, hrest⟩
  · exact hschema
  · obtain ⟨field, hfield, htarget⟩ := Option.bind_eq_some_iff.mp hpath
    exact hfields field (List.mem_of_find?_eq_some hfield) target htarget other hrest

theorem KeepsIds.target {schema target : Schema} (h : schema.KeepsIds) {path : String}
    (hpath : schema.reference? path = some target) : target.KeepsIds :=
  fun other hother => h other (.head ⟨path, hpath⟩ hother)

end Schema

/-! ### Documents by their identifiers -/

/-- The first document of a collection with the given identifier. -/
def Collection.document? (collection : Collection) (id : ObjectId) : Option Document :=
  collection.documents.find? fun document => document.id? == some id

/-- Of a list with one item of a kind at most, the last item of this kind is the first one. -/
theorem find?_reverse_of_unique {α : Type} {items : List α} {isKind : α → Bool}
    (h : ∀ a ∈ items, ∀ b ∈ items, isKind a → isKind b → a = b) :
    items.reverse.find? isKind = items.find? isKind := by
  -- If there is none of the kind, then none in either direction.
  cases hfirst : items.find? isKind with
  | none =>
    rw [List.find?_eq_none] at hfirst ⊢
    intro item hitem
    exact hfirst item (List.mem_reverse.mp hitem)
  | some first =>
    have hmem := List.mem_of_find?_eq_some hfirst
    have hkind := List.find?_some hfirst
    cases hlast : items.reverse.find? isKind with
    | none =>
      exact absurd hkind (List.find?_eq_none.mp hlast first (List.mem_reverse.mpr hmem))
    | some last =>
      have hlastMem := List.mem_reverse.mp (List.mem_of_find?_eq_some hlast)
      rw [h last hlastMem first hmem (List.find?_some hlast) hkind]

/-- A collection that has been resolved, in a way that leaves identifiers as they are, has under an
identifier the document that it had there before, resolved. -/
theorem Population.document?_map {collection : Collection} (hids : collection.Identified)
    {resolved : Document → Document} (h : ∀ document, (resolved document).id? = document.id?)
    (id : ObjectId) :
    document? (collection.documents.map resolved) id = (collection.document? id).map resolved := by
  unfold document? Collection.document?
  -- Resolving keeps identifiers, so the same documents are looked for.
  have hsame : ((fun document : Document => document.id? == some id) ∘ resolved)
      = fun document => document.id? == some id := by
    funext document
    rw [Function.comp_apply, h]
  rw [← List.map_reverse, List.find?_map, hsame, find?_reverse_of_unique]
  -- Documents with the same identifier are the same document.
  intro a ha b hb hida hidb
  refine List.inj_on_of_nodup_map hids.nodup ha hb ?_
  rw [beq_iff_eq.mp hida, beq_iff_eq.mp hidb]

namespace Population

/-! ### The meaning of a population -/

/-- A value with its identifiers replaced by what they lead to. An identifier that leads nowhere
becomes null, and is dropped from a list. -/
def replaceIds (lookUp : ObjectId → Option Document) : Bson → Bson
  | .objectId id => ((lookUp id).map .document).getD .null
  | .array items => .array (items.filterMap fun item =>
      match item with
      | .objectId id => (lookUp id).map .document
      | other => some other)
  | other => other

mutual

/-- What a node makes of the value of its field, in a document of the given schema. -/
def nodeValue (store : Store) (schema : Schema) : Node → Bson → Bson
  | .mk path children, value =>
    match schema.reference? path with
    | none => value
    | some target =>
      replaceIds (fun id => ((store.collection target.collection).document? id).map
        (List.map fun field => (field.1, fieldValue store target field.1 children field.2))) value

/-- What nodes make of the value of the field `name`, in a document of the given schema: what the
node of this name makes of it, if there is one. -/
def fieldValue (store : Store) (schema : Schema) (name : String) : List Node → Bson → Bson
  | [], value => value
  | node :: rest, value =>
    if node.path = name then nodeValue store schema node value
    else fieldValue store schema name rest value

end

/-- **The meaning of a population** for a document of the given schema: every field is rewritten by
the node of its name, and the names and their order stay. -/
def populated (store : Store) (schema : Schema) (population : Population) (document : Document) :
    Document :=
  document.map fun field => (field.1, fieldValue store schema field.1 population field.2)

mutual

/-- Whether the nodes below a node have distinct names among siblings, at every depth. -/
def Node.DistinctPaths : Node → Prop
  | .mk _ children => (children.map Node.path).Nodup ∧ DistinctPathsBelow children

/-- Whether the nodes below each of some nodes have distinct names among siblings. -/
def DistinctPathsBelow : List Node → Prop
  | [] => True
  | node :: rest => node.DistinctPaths ∧ DistinctPathsBelow rest

end

/-- Whether siblings have distinct names, at every depth. -/
def DistinctPaths (population : Population) : Prop :=
  (population.map Node.path).Nodup ∧ DistinctPathsBelow population

/-! ### Fields that no node names -/

theorem fieldValue_of_notMem {store : Store} {schema : Schema} {name : String} {nodes : List Node}
    (h : name ∉ nodes.map Node.path) (value : Bson) :
    fieldValue store schema name nodes value = value := by
  induction nodes with
  | nil => rfl
  -- The name is none of the nodes.
  | cons node rest ih =>
    rw [List.map_cons, List.mem_cons, not_or] at h
    rw [fieldValue, if_neg (Ne.symm h.1), ih h.2]

/-! ### One node -/

/-- Values are replaced by what is found among documents. -/
theorem resolveValue_eq_replaceIds {documents : List Document}
    {lookUp : ObjectId → Option Document} (h : ∀ id, document? documents id = lookUp id)
    (value : Bson) : resolveValue documents value = replaceIds lookUp value := by
  -- By the kinds of values; only identifiers, alone or in a list, are looked up.
  cases value with
  | objectId id => rw [resolveValue, replaceIds, h]
  | array items =>
    rw [resolveValue, replaceIds]
    congr 2
    funext item
    cases item with
    | objectId id => rw [resolveItem, h]
    | _ => rfl
  | _ => rfl

/-- Replacing the references in one field, where names are distinct. -/
theorem substitute_eq_map {document : Document} (hnodup : (Fields.keys document).Nodup)
    (documents : List Document) (path : String) :
    substitute documents path document
      = document.map fun field =>
          (field.1, if path = field.1 then resolveValue documents field.2 else field.2) := by
  unfold substitute
  -- Without the field nothing changes, and no field has the name.
  cases hvalue : Fields.get? document path with
  | some value => exact Fields.insert_eq_map hnodup hvalue (resolveValue documents)
  | none =>
    rw [List.map_congr_left (g := id), List.map_id]
    intro field hfield
    have hne : path ≠ field.1 := by
      rintro rfl
      exact Fields.get?_eq_none_iff.mp hvalue (Fields.mem_keys_of_mem hfield)
    rw [if_neg hne, id_eq]

/-- Resolving leaves the fields as they are that are no references. -/
theorem get?_resolveIn_of_reference?_eq_none {store : Store} {schema : Schema} {name : String}
    (h : schema.reference? name = none) (nodes : List Node) (document : Document) :
    Fields.get? (resolveIn store schema nodes document) name = Fields.get? document name := by
  induction nodes generalizing document with
  | nil => rw [resolveIn]
  | cons node rest ih =>
    obtain ⟨path, children⟩ := node
    rw [resolveIn, ih, resolveNodeIn]
    -- A node that is no reference changes nothing, and one that is has another name.
    cases hreference : schema.reference? path with
    | none => rfl
    | some target =>
      have hne : path ≠ name := by
        rintro rfl
        rw [h] at hreference
        cases hreference
      exact get?_substitute_of_ne hne _ document

/-! ### All nodes -/

/-- What the program and the meaning of a population need of a store: no two documents of a
collection have the same identifier, and no two fields of a document the same name. -/
structure Resolvable (store : Store) : Prop where
  identified : ∀ name, (store.collection name).Identified
  nodup : ∀ name, ∀ document ∈ (store.collection name).documents, (Fields.keys document).Nodup

mutual

/-- Resolving one node rewrites the field of its name. -/
theorem resolveNodeIn_eq_map {store : Store} (hstore : Resolvable store) {schema : Schema}
    (hschema : schema.KeepsIds) (node : Node) (hnode : node.DistinctPaths) {document : Document}
    (hnodup : (Fields.keys document).Nodup) :
    resolveNodeIn store schema node document
      = document.map fun field =>
          (field.1, if node.path = field.1 then nodeValue store schema node field.2
            else field.2) := by
  match node with
  | .mk path children =>
    rw [Node.path, resolveNodeIn]
    simp only [nodeValue]
    -- A node of a field that is no reference leaves the document as it is.
    cases hreference : schema.reference? path with
    | none => simp
    | some target =>
      have htarget : target.KeepsIds := hschema.target hreference
      simp only
      rw [substitute_eq_map hnodup]
      -- What is found in the resolved collection is what the identifier leads to, populated.
      have hlookUp : ∀ id, document? ((store.collection target.collection).documents.map
            (resolveIn store target children)) id
          = ((store.collection target.collection).document? id).map
              (populated store target children) := by
        intro id
        rw [document?_map (hstore.identified target.collection)]
        · cases hfound : (store.collection target.collection).document? id with
          | none => rfl
          | some found =>
            have hfoundNodup := hstore.nodup target.collection found
              (List.mem_of_find?_eq_some hfound)
            rw [Option.map_some, Option.map_some,
              resolveIn_eq_populated hstore htarget children hnode hfoundNodup]
        · intro other
          unfold Document.id?
          rw [get?_resolveIn_of_reference?_eq_none htarget.reference?]
      have hvalue := resolveValue_eq_replaceIds hlookUp
      simp only [hvalue]
      rfl

/-- **Resolving in one document** gives the meaning of the population for it. -/
theorem resolveIn_eq_populated {store : Store} (hstore : Resolvable store) {schema : Schema}
    (hschema : schema.KeepsIds) (nodes : List Node) (hnodes : DistinctPaths nodes)
    {document : Document} (hnodup : (Fields.keys document).Nodup) :
    resolveIn store schema nodes document = populated store schema nodes document := by
  match nodes with
  | [] =>
    rw [resolveIn]
    unfold populated
    simp [fieldValue]
  | node :: rest =>
    -- What is asked of the tree holds of the first node and of the others.
    have hrest : DistinctPaths rest := ⟨(List.nodup_cons.mp hnodes.1).2, hnodes.2.2⟩
    have hfirst := resolveNodeIn_eq_map hstore hschema node hnodes.2.1 hnodup
    -- Resolving a node keeps the names of fields, so that the next node finds them distinct.
    have hkeys : Fields.keys (resolveNodeIn store schema node document)
        = Fields.keys document := by
      rw [hfirst]
      unfold Fields.keys
      rw [List.map_map]
      rfl
    rw [resolveIn, resolveIn_eq_populated hstore hschema rest hrest (by rw [hkeys]; exact hnodup),
      hfirst]
    unfold populated
    rw [List.map_map]
    refine List.map_congr_left fun field _ => ?_
    rw [Function.comp_apply, fieldValue]
    -- The nodes behind the first one do not name its field.
    by_cases hname : node.path = field.1
    · have hnotMem : field.1 ∉ rest.map Node.path := hname ▸ (List.nodup_cons.mp hnodes.1).1
      simp only [if_pos hname, fieldValue_of_notMem hnotMem]
    · simp only [if_neg hname]

end

/-- **Populations.** Let the documents of a store have distinct identifiers in each collection, and
let neither the given schema nor any that it leads to declare the identifier as a reference. Then
resolving a population with distinct siblings in any list of documents does not fail, leaves the
store as it is, and gives in the same order what the population means for each of them. -/
theorem perform_resolve_populated (engine : StoreEngine) {store : Store}
    (hstore : Resolvable store) {schema : Schema} (hschema : schema.KeepsIds)
    {population : Population} (hpopulation : population.DistinctPaths) {documents : List Document}
    (hdocuments : ∀ document ∈ documents, (Fields.keys document).Nodup) :
    StoreM.perform (resolve (.inMemory engine) schema population documents) store
      = (.ok (documents.map (populated store schema population)), store) := by
  rw [perform_resolve, List.map_congr_left]
  intro document hdocument
  exact resolveIn_eq_populated hstore hschema population hpopulation (hdocuments document hdocument)

/-- Two people, one of whom lives in the only town, and whose mayor the other one is. -/
def village : Store :=
  ⟨[("people", ⟨[[("_id", .objectId (.ofNat 1)), ("home", .objectId (.ofNat 10)),
        ("friends", .array [.objectId (.ofNat 2), .objectId (.ofNat 99), .string "nobody"])],
      [("_id", .objectId (.ofNat 2)), ("home", .objectId (.ofNat 11))]], []⟩),
    ("towns", ⟨[[("_id", .objectId (.ofNat 10)), ("mayor", .objectId (.ofNat 2))]], []⟩)]⟩

/-- People without any references. -/
def people : Schema := .ofFields "people" []

/-- A town, whose mayor is one of the people. -/
def towns : Schema := .ofFields "towns" [{ name := "mayor", target := some people }]

/-- People who refer to their town and to each other. -/
def villagers : Schema :=
  .ofFields "people"
    [{ name := "home", target := some towns }, { name := "friends", target := some people }]

/-- Both people are resolved in one batch. The mayor is found below the town; of two identifiers
without a document the single one becomes null and the one in the list is dropped. -/
theorem perform_resolve_populated_village :
    StoreM.perform (resolve (.inMemory .withoutPatterns) villagers
        [.mk "home" [.mk "mayor" []], .mk "friends" []] (village.collection "people").documents)
      village
    = (.ok [[("_id", .objectId (.ofNat 1)),
          ("home", .document [("_id", .objectId (.ofNat 10)),
            ("mayor", .document [("_id", .objectId (.ofNat 2)), ("home", .objectId (.ofNat 11))])]),
          ("friends", .array [
            .document [("_id", .objectId (.ofNat 2)), ("home", .objectId (.ofNat 11))],
            .string "nobody"])],
        [("_id", .objectId (.ofNat 2)), ("home", .null)]], village) := by
  -- The store has two collections, whose documents are looked through.
  have hstore : Resolvable village := by
    refine ⟨fun name => ?_, fun name => ?_⟩
    · refine village.collection_induction name Collection.identified_empty ?_
      exact List.forall_mem_cons.mpr ⟨⟨by decide, by decide⟩,
        List.forall_mem_singleton.mpr ⟨by decide, by decide⟩⟩
    · refine village.collection_induction name
        (motive := fun collection => ∀ document ∈ collection.documents,
          (Fields.keys document).Nodup) ?_ ?_
      · decide
      · decide
  -- No schema on the way declares the identifier, neither directly nor further on.
  have hpeople : people.KeepsIds := by
    have hfields : people.fields = [Schema.activeFlag] := rfl
    refine Schema.keepsIds_of_fields rfl ?_
    simp [hfields, Schema.activeFlag]
  have htowns : towns.KeepsIds := by
    have hfields : towns.fields
        = [Schema.activeFlag, { name := "mayor", target := some people }] := rfl
    refine Schema.keepsIds_of_fields rfl ?_
    simp [hfields, Schema.activeFlag, hpeople]
  have hschema : villagers.KeepsIds := by
    have hfields : villagers.fields
        = [Schema.activeFlag, { name := "home", target := some towns },
            { name := "friends", target := some people }] := rfl
    refine Schema.keepsIds_of_fields rfl ?_
    simp [hfields, Schema.activeFlag, hpeople, htowns]
  refine (perform_resolve_populated _ hstore hschema ?_ ?_).trans rfl
  · exact ⟨by decide, ⟨by decide, ⟨by decide, trivial⟩, trivial⟩, ⟨by decide, trivial⟩, trivial⟩
  · decide

end Population

end DocumentApi
