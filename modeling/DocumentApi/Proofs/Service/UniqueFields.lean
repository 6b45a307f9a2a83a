import DocumentApi.Proofs.Matching.Equality
import DocumentApi.Proofs.Service.Run
import DocumentApi.Proofs.Store.Exclusion

/-!
# Unique fields and queries

A unique index takes the values under the name of its field as they are stored, and a query takes
the values at the dotted path as it compares them. Consider the collection of a schema that was
initialized while the collection was empty, and two documents of it at any later time.

* `Service.differInScalars` — under a unique field the documents do not hold the same boolean,
  number or text in the view of the index. In the view of queries the path leads to the same value,
  if the field has no dots, exactly if the values are numbers that are stored apart
  (`Bson.StoredApart`); only then are both documents found by a query for a boolean or a number;
* `Service.not_uniqueToQueries` — and this happens: an integer and a double of the same value are
  both accepted.

What the index rules out is an invariant of the run (`Service.excludes_reached`): documents that
hold the same scalar are a case of it.
-/

namespace DocumentApi

/-! ### Documents that hold the same scalar -/

/-- Whether two documents hold scalars under a field that are the same for an index. -/
def Document.ShareScalar (field : String) (a b : Document) : Prop :=
  ∃ x y, Fields.get? a field = some x ∧ Fields.get? b field = some y ∧
    x.isScalar = true ∧ y.isScalar = true ∧ x.same y = true

theorem Collection.indexed?_of_isScalar {document : Document} {field : String} {value : Bson}
    (hvalue : Fields.get? document field = some value) (h : value.isScalar = true) :
    indexed? document field = some value := by
  unfold indexed?
  rw [hvalue]
  -- Null is the one value that an index leaves out, and it is no scalar.
  cases value with
  | null => cases h
  | _ => rfl

/-- A unique field rules out that documents hold the same scalar. -/
theorem Collection.ruledOut_shareScalar (field : String) :
    RuledOut field (Document.ShareScalar field) := by
  constructor
  · rintro a b ⟨x, y, hx, hy, hxScalar, hyScalar, hsame⟩
    exact ⟨y, x, hy, hx, hyScalar, hxScalar, Bson.same_symm (Bson.wellFormed_of_isScalar hxScalar)
      (Bson.wellFormed_of_isScalar hyScalar) hsame⟩
  · rintro a b ⟨x, y, hx, hy, hxScalar, hyScalar, hsame⟩
    exact ⟨x, y, indexed?_of_isScalar hx hxScalar, indexed?_of_isScalar hy hyScalar, hsame⟩

namespace Service

variable (engine : StoreEngine)

/-! ### Runs -/

/-- What two documents may have in common under a unique field. -/
structure DifferInScalars (field : String) (a b : Document) : Prop where
  /-- The index takes no two scalars for the same. -/
  stored : ∀ x y, Fields.get? a field = some x → Fields.get? b field = some y →
    x.isScalar = true → y.isScalar = true → x.same y = false
  /-- A query takes them for the same if they are numbers that are stored apart. -/
  compared : segments field = [field] → ∀ x ∈ a.resolve field, ∀ y ∈ b.resolve field,
    x.isScalar = true → y.isScalar = true →
      (x.comparable.same y.comparable = true ↔ Bson.StoredApart x y)
  /-- No boolean finds both documents, and a number does only then. -/
  found : segments field = [field] → ∀ x ∈ a.resolve field, ∀ y ∈ b.resolve field,
    x.isScalar = true → y.isScalar = true → ∀ (criteria : Criteria) (criterion : Criterion),
      (field, criterion) ∈ criteria.leaves → criterion.expected?.isSome →
        Matching.answer engine criteria a = .ok true →
          Matching.answer engine criteria b = .ok true →
            (∀ flag, criterion ≠ .bool flag) ∧ Bson.StoredApart x y

/-- Documents that do not hold the same scalar for an index hold different ones for a query, unless
they are numbers that are stored apart. -/
theorem differInScalars_of_not {field : String} {a b : Document}
    (h : ¬ Document.ShareScalar field a b) : DifferInScalars engine field a b := by
  -- The negation of sharing a scalar, spelled out.
  have hstored : ∀ x y, Fields.get? a field = some x → Fields.get? b field = some y →
      x.isScalar = true → y.isScalar = true → x.same y = false := by
    intro x y hx hy hxScalar hyScalar
    exact Bool.eq_false_iff.mpr fun hsame => h ⟨x, y, hx, hy, hxScalar, hyScalar, hsame⟩
  have hcompared : segments field = [field] → ∀ x ∈ a.resolve field, ∀ y ∈ b.resolve field,
      x.isScalar = true → y.isScalar = true →
        (x.comparable.same y.comparable = true ↔ Bson.StoredApart x y) := by
    intro hfield x hx y hy hxScalar hyScalar
    -- The path leads to the values that the index compares, which are not the same.
    have hsame := hstored x y ((Document.mem_resolve_iff hfield).mp hx)
      ((Document.mem_resolve_iff hfield).mp hy) hxScalar hyScalar
    rw [Bson.same_comparable_iff hyScalar, hsame]
    exact or_iff_right Bool.false_ne_true
  refine ⟨hstored, hcompared, ?_⟩
  intro hfield x hx y hy hxScalar hyScalar criteria criterion hleaf hsome hanswer hanswer'
  obtain ⟨expected, hexpected⟩ := Option.isSome_iff_exists.mp hsome
  have hequal := Matching.isEqualTo_of_answer hfield hx hxScalar hleaf hexpected hanswer
  have hequal' := Matching.isEqualTo_of_answer hfield hy hyScalar hleaf hexpected hanswer'
  -- Criteria that ask for a boolean or a number compare for equality, so the two values equal each
  -- other.
  rcases Matching.same_of_isEqualTo hexpected hequal hequal' with
    ⟨flag, -, rfl, rfl⟩ | ⟨hnumber, hvalues⟩
  · -- The index does not take the boolean twice.
    have hsame := hstored _ _ ((Document.mem_resolve_iff hfield).mp hx)
      ((Document.mem_resolve_iff hfield).mp hy) rfl rfl
    rw [Bson.same_bool_iff.mpr rfl] at hsame
    cases hsame
  · exact ⟨hnumber, (hcompared hfield x hx y hy hxScalar hyScalar).mp hvalues⟩

/-- **One event** relates no documents in a way that a unique field rules out. -/
theorem Event.excludes_after {store : Store} {name field : String}
    {related : Document → Document → Prop} (hrelated : Collection.RuledOut field related)
    (event : Event) (hfield : field ∈ (store.collection name).indexedFields)
    (h : (store.collection name).Excludes related) :
    field ∈ ((event.after engine store).collection name).indexedFields ∧
      ((event.after engine store).collection name).Excludes related := by
  -- Indexes are only ever added, so the field stays indexed, and what it rules out stays excluded
  -- in each way in which a request can change a collection.
  refine event.collection_induction engine store
    (motive := fun after => field ∈ after.indexedFields ∧ after.Excludes related) ⟨hfield, h⟩
    ?_ ?_ ?_
  · intro documents
    refine ⟨?_, hrelated.insertAll hfield documents h⟩
    rw [Collection.indexedFields_insertAll]
    exact hfield
  · intro id changes
    refine ⟨?_, hrelated.changed hfield id changes h⟩
    rw [Collection.indexedFields_changed]
    exact hfield
  · rintro collection other ⟨hmem, hexcludes⟩
    exact ⟨Collection.mem_indexedFields_addUnique.mpr (Or.inl hmem), hexcludes.addUnique other⟩

/-- **Along a run** no two documents of a collection are related in a way that a unique field of its
schema rules out, if the schema was initialized while the collection was empty. -/
theorem excludes_reached {schema : Schema} {events : List Event} {start : Nat}
    (hinit : events[start]? = some (.init schema))
    (hempty : ((reached engine events start).collection schema.collection).documents = [])
    {field : String} (hfield : field ∈ schema.uniqueFields)
    {related : Document → Document → Prop} (hrelated : Collection.RuledOut field related)
    {count : Nat} (hcount : start < count) :
    ((reached engine events count).collection schema.collection).Excludes related := by
  suffices hall : field ∈ ((reached engine events count).collection
        schema.collection).indexedFields ∧
      ((reached engine events count).collection schema.collection).Excludes related from hall.2
  -- The invariant has to carry the index as well, or it is not preserved.
  have hlater : start + 1 ≤ count := hcount
  refine Store.reached_le_induction (Event.after engine)
    (motive := fun store => field ∈ (store.collection schema.collection).indexedFields ∧
      (store.collection schema.collection).Excludes related) ?_ ?_ hlater
  · -- The index is there, and there are no documents yet that it could have missed.
    have hreached := reached_succ engine hinit
    unfold reached at hreached
    rw [hreached]
    refine ⟨mem_indexedFields_init engine schema _ hfield, ?_⟩
    refine Collection.excludes_of_eq_nil ?_
    rw [documents_init]
    exact hempty
  · intro later event _ _ hbefore
    exact event.excludes_after engine hrelated hbefore.1 hbefore.2

/-- **A unique field and queries.** Take a run of a service on the empty store in which a schema is
initialized while its collection is empty, a unique field of the schema, and two different places of
the collection at any later time. Their documents do not hold scalars under the field that are the
same for the index. If the field has no dots, then the scalars that its path leads to are equal to a
query only if they are numbers that are stored apart, as different types or as integers of 64 bits
that a binary64 cannot tell from each other; and only then both documents satisfy criteria that ask
for a boolean or a number at the field, which is a number. -/
theorem differInScalars {schema : Schema} {events : List Event} {start : Nat}
    (hinit : events[start]? = some (.init schema))
    (hempty : ((reached engine events start).collection schema.collection).documents = [])
    {field : String} (hfield : field ∈ schema.uniqueFields) {count : Nat} (hcount : start < count)
    {i j : Nat} (hij : i ≠ j) {a b : Document}
    (ha : ((reached engine events count).collection schema.collection).documents[i]? = some a)
    (hb : ((reached engine events count).collection schema.collection).documents[j]? = some b) :
    DifferInScalars engine field a b := by
  have hruled := Collection.ruledOut_shareScalar field
  have hexcludes := excludes_reached engine hinit hempty hfield hruled hcount
  exact differInScalars_of_not engine (hruled.not_related hexcludes hij ha hb)

/-- Items with a number each that is unique. -/
def itemSchema : Schema :=
  .ofFields "items" [{ name := "n", unique := true }]

/-- The schema of items is initialized, and two items are inserted. -/
def twoNumbers (first second : Json) : List Event :=
  [.init itemSchema,
    .request itemSchema .ofNat
      ((Request.ofMethod "POST").withJsonContent.withBody
        (.obj [("_id", .str "64b7f3a2c9e77a0000000001"), ("n", first)])),
    .request itemSchema .ofNat
      ((Request.ofMethod "POST").withJsonContent.withBody
        (.obj [("_id", .str "64b7f3a2c9e77a0000000002"), ("n", second)]))]

/-- Two items with different numbers are both there, and differ. -/
theorem differInScalars_twoNumbers :
    ∃ a b, ((reached .withoutPatterns (twoNumbers (.int 1) (.int 2)) 3).collection
        "items").documents = [a, b] ∧
      DifferInScalars .withoutPatterns "n" a b := by
  -- The run is closed, so it is evaluated up to the number of its items.
  have hlength : ((reached .withoutPatterns (twoNumbers (.int 1) (.int 2)) 3).collection
      "items").documents.length = 2 := by decide +kernel
  obtain ⟨a, b, hitems⟩ := List.length_eq_two.mp hlength
  have hinit : (twoNumbers (.int 1) (.int 2))[0]? = some (.init itemSchema) := rfl
  have hfield : "n" ∈ itemSchema.uniqueFields := by decide
  have hcount : 0 < 3 := by decide
  have hplaces : 0 ≠ 1 := by decide
  exact ⟨a, b, hitems, differInScalars .withoutPatterns hinit rfl hfield hcount hplaces
    (congrArg (·[0]?) hitems) (congrArg (·[1]?) hitems)⟩

/-- Whether the scalars that a path leads to in different documents of a collection are different
ones to queries. -/
def UniqueToQueries (collection : Collection) (path : String) : Prop :=
  ∀ (i j : Nat) (a b : Document), i ≠ j → collection.documents[i]? = some a →
    collection.documents[j]? = some b → ∀ x ∈ a.resolve path, ∀ y ∈ b.resolve path,
      x.isScalar = true → y.isScalar = true → x.comparable.same y.comparable = false

/-- **A unique field is not unique to queries**: an item with the integer one and one with the
double one are both accepted. -/
theorem not_uniqueToQueries : ¬ ∀ engine schema events start,
    events[start]? = some (.init schema) →
    ((reached engine events start).collection schema.collection).documents = [] →
    ∀ field ∈ schema.uniqueFields, ∀ count, start < count →
      UniqueToQueries ((reached engine events count).collection schema.collection) field := by
  intro h
  have hunique := h .withoutPatterns itemSchema (twoNumbers (.int 1) (.float (.ofInt 1))) 0 rfl rfl "n"
    (by decide) 3 (by decide)
  -- The path leads to a number in both items, and the numbers are equal.
  have hequal : (do
      let items := ((reached .withoutPatterns (twoNumbers (.int 1) (.float (.ofInt 1))) 3).collection
        "items").documents
      let a ← items[0]?
      let b ← items[1]?
      let x ← (a.resolve "n").head?
      let y ← (b.resolve "n").head?
      guard (x.isScalar && y.isScalar && x.comparable.same y.comparable)).isSome := by
    decide +kernel
  -- What was guarded is taken apart into the two items and the value in each.
  obtain ⟨_, hequal⟩ := Option.isSome_iff_exists.mp hequal
  obtain ⟨a, ha, hequal⟩ := Option.bind_eq_some_iff.mp hequal
  obtain ⟨b, hb, hequal⟩ := Option.bind_eq_some_iff.mp hequal
  obtain ⟨x, hx, hequal⟩ := Option.bind_eq_some_iff.mp hequal
  obtain ⟨y, hy, hequal⟩ := Option.bind_eq_some_iff.mp hequal
  have hboth : (x.isScalar && y.isScalar && x.comparable.same y.comparable) = true := by
    by_contra hnot
    rw [guard, if_neg hnot] at hequal
    cases hequal
  rw [Bool.and_eq_true, Bool.and_eq_true] at hboth
  have hdiffer := hunique 0 1 a b (by decide) ha hb x (List.mem_of_head? hx) y
    (List.mem_of_head? hy) hboth.1.1 hboth.1.2
  rw [hboth.2] at hdiffer
  cases hdiffer

end Service

end DocumentApi
