import DocumentApi.Proofs.Bson.PlainJson
import DocumentApi.Proofs.Fields.Pairs
import DocumentApi.Proofs.ObjectId.LetterCase
import DocumentApi.Proofs.Schema.Preparation

/-!
# What is shown of a new document

A document that is prepared from a body has three parts: its identifier, the other fields of the
body, and the fields that the body leaves out but that start with a value. The parts stay in this
order, and so do the fields in each of them, because the names of a body are distinct and those of a
schema are too:

* `fillFields_eq` — the fields that start with a value come after all others;
* `showsField_of_readField` — a field of a body is shown as it was sent, or as a reference;
* `shows_of_newDocument` — the whole document, as a response shows it (`Schema.Shows`).
-/

namespace DocumentApi

namespace Schema

/-! ### Declared fields -/

/-- Whether no name is declared twice. -/
def DistinctNames (schema : Schema) : Prop :=
  (schema.fields.map (·.name)).Nodup

/-- A field that is declared again gives place to the new declaration. -/
theorem distinctNames_ofFields (collection : String) (fields : List Field) :
    (ofFields collection fields).DistinctNames := by
  -- The kept declarations have other names than the new one, and are distinct as they were.
  have hdeclare : ∀ (declared : List Field) (field : Field),
      (declared.map (·.name)).Nodup → ((declare declared field).map (·.name)).Nodup := by
    intro declared field h
    unfold declare
    rw [List.map_append, List.map_singleton, List.nodup_append]
    refine ⟨(h.sublist (List.filter_sublist.map _)), List.nodup_singleton _, ?_⟩
    intro name hname other hother heq
    obtain ⟨kept, hkept, rfl⟩ := List.mem_map.mp hname
    rw [List.mem_singleton.mp hother] at heq
    exact absurd heq (by simpa using (List.mem_filter.mp hkept).2)
  -- Declaring one field after another starts with the flag alone.
  have hall : ∀ declared : List Field, (declared.map (·.name)).Nodup →
      ((fields.foldl declare declared).map (·.name)).Nodup := by
    induction fields with
    | nil => exact fun _ h => h
    | cons field rest ih => exact fun declared h => ih _ (hdeclare declared field h)
  exact hall [activeFlag] (List.nodup_singleton _)

/-- The fields that start with a value, each with its value. -/
def defaults (schema : Schema) : Fields Bson :=
  schema.fields.filterMap fun field => field.initial.map fun value => (field.name, value)

/-- A field that is filled in is put at the end, if it is absent and starts with a value. -/
theorem fillField_eq (document : Document) (field : Field) :
    fillField document field
      = document ++ (field.initial.map fun value => (field.name, value)).toList.filter
          fun filled => !Fields.contains document filled.1 := by
  -- A field without a starting value changes nothing, and neither does one that is there.
  unfold fillField
  cases field.initial with
  | none => exact (List.append_nil document).symm
  | some value =>
    simp only [Option.map_some, Option.toList_some]
    by_cases hname : Fields.contains document field.name = true
    · rw [if_pos hname, List.filter_cons_of_neg (by simpa using hname), List.filter_nil,
        List.append_nil]
    · have hnotMem : field.name ∉ Fields.keys document :=
        fun hmem => hname (Fields.contains_iff.mpr hmem)
      rw [if_neg hname, List.filter_cons_of_pos (by simpa using hname), List.filter_nil,
        Fields.insert_of_notMem hnotMem]

/-- **Filling in.** The fields that are absent and start with a value come after the others, in the
order of their declarations. -/
theorem fillFields_eq {schema : Schema} (h : schema.DistinctNames) (document : Document) :
    schema.fillFields document
      = document ++ schema.defaults.filter fun field => !Fields.contains document field.1 := by
  -- The induction is on the declared fields, each of them being filled in behind the others.
  obtain ⟨collection, fields⟩ := schema
  change (fields.map (·.name)).Nodup at h
  unfold fillFields defaults
  simp only
  induction fields generalizing document with
  | nil => exact (List.append_nil document).symm
  | cons field rest ih =>
    -- The name that is declared first is not declared again.
    rw [List.map_cons, List.nodup_cons] at h
    rw [List.foldl_cons, ih _ h.2, fillField_eq, List.append_assoc]
    have hdefaults : ((field :: rest).filterMap fun field =>
        field.initial.map fun value => (field.name, value))
          = (field.initial.map fun value => (field.name, value)).toList
            ++ rest.filterMap fun field => field.initial.map fun value => (field.name, value) := by
      cases hinitial : field.initial <;> simp [hinitial]
    rw [hdefaults, List.filter_append]
    congr 2
    -- So filling in the first field changes nothing for the others.
    -- None of the later declarations has the name that has been filled in.
    refine List.filter_congr fun later hlater => ?_
    have hne : later.1 ≠ field.name := by
      intro heq
      obtain ⟨declared, hdeclared, hsome⟩ := List.mem_filterMap.mp hlater
      obtain ⟨_, -, rfl⟩ := Option.map_eq_some_iff.mp hsome
      exact h.1 (heq ▸ List.mem_map_of_mem hdeclared)
    -- What the first field adds to the document is at most its own name.
    rw [Fields.contains_append_of_notMem]
    intro hmem
    obtain ⟨filled, hfilled, hname⟩ := List.mem_map.mp hmem
    obtain ⟨_, -, rfl⟩ :=
      Option.map_eq_some_iff.mp (Option.mem_toList.mp (List.mem_filter.mp hfilled).1)
    exact hne hname.symm

/-! ### Fields of a body -/

/-- A reference is shown as null if it is null, and otherwise by its digits in lower case. -/
inductive ShowsReference : Json → Json → Prop
  | null : ShowsReference .null .null
  | id {text : String} (h : (ObjectId.ofHex? text).isSome) :
      ShowsReference (.str text) (.str text.toLower)

/-- The value of a reference field is shown as one reference or as the list of them. -/
inductive ShowsReferences : Json → Json → Prop
  | one {sent shown : Json} (h : ShowsReference sent shown) : ShowsReferences sent shown
  | list {sent shown : List Json} (h : List.Forall₂ ShowsReference sent shown) :
      ShowsReferences (.arr sent) (.arr shown)

/-- How a field of a body is shown: a reference field as references, and any other field as it was
sent if its value is plain. -/
structure ShowsField (schema : Schema) (sent shown : String × Json) : Prop where
  name_eq : shown.1 = sent.1
  references : schema.reference? sent.1 ≠ none → ShowsReferences sent.2 shown.2
  unchanged : schema.reference? sent.1 = none → sent.2.Plain → shown.2 = sent.2

/-- A text that is read as an identifier is shown in lower case. -/
theorem normalize_of_ofHex? {text : String} {id : ObjectId} (h : ObjectId.ofHex? text = some id) :
    Bson.normalize (.objectId id) = .str text.toLower := by
  rw [Bson.normalize, ObjectId.ofHex?_eq_some_iff.mp h]

theorem showsReference_of_readReference {path : String} {sent : Json} {stored : Bson}
    (h : readReference path sent = .ok stored) : ShowsReference sent stored.normalize := by
  unfold readReference at h
  split at h
  · -- Null stays null.
    cases h
    exact .null
  · -- A text of digits is stored as the identifier that it writes.
    obtain ⟨id, hid, rfl⟩ := exists_of_map_eq_ok h
    unfold readId at hid
    split at hid
    · next text =>
      split at hid
      · next hread =>
        cases hid
        rw [normalize_of_ofHex? hread]
        exact .id (Option.isSome_of_eq_some hread)
      · cases hid
    · cases hid

theorem showsReferences_of_readReferences {path : String} {sent : List Json} {stored : List Bson}
    (h : readReferences path sent = .ok stored) :
    List.Forall₂ ShowsReference sent (Bson.normalizeItems stored) := by
  -- The references are shown in their order, each as itself.
  induction sent generalizing stored with
  | nil =>
    cases h
    exact .nil
  | cons item rest ih =>
    rw [readReferences] at h
    obtain ⟨value, hvalue, h⟩ := exists_of_bind_eq_ok h
    obtain ⟨others, hothers, h⟩ := exists_of_bind_eq_ok h
    cases h
    exact .cons (showsReference_of_readReference hvalue) (ih hothers)

/-- **A field of a body**, as it is shown. -/
theorem showsField_of_readField {schema : Schema} {name : String} {sent : Json} {stored : Bson}
    (hsent : sent.WellFormed) (h : schema.readField name sent = .ok stored) :
    schema.ShowsField (name, sent) (name, stored.normalize) := by
  unfold readField at h
  cases htarget : schema.reference? name with
  -- The schema declares no reference, so a plain value is shown as it was sent.
  | none =>
    rw [htarget, Option.isNone_none, if_pos rfl] at h
    refine ⟨rfl, fun hsome => absurd htarget hsome, fun _ hplain => ?_⟩
    exact Bson.normalize_of_ofJson hsent hplain (eq_ok_of_mapError_eq_ok h)
  -- It declares one, so the value has been read as references.
  | some target =>
    rw [htarget, Option.isNone_some, if_neg Bool.false_ne_true] at h
    refine ⟨rfl, fun _ => ?_, fun hnone => ?_⟩
    · -- A list of references, or one of them.
      split at h
      · obtain ⟨values, hvalues, rfl⟩ := exists_of_map_eq_ok h
        exact .list (showsReferences_of_readReferences hvalues)
      · exact .one (showsReference_of_readReference h)
    · rw [htarget] at hnone
      cases hnone

/-- Whether the name of a field is neither that of the identifier nor that of the version key. -/
def isOrdinary (name : String) : Bool :=
  name ≠ idField ∧ name ≠ versionField

/-- The fields of a body, in their order, without the identifier and the version key. -/
theorem showsFields_of_readFields {schema : Schema} {sent : Fields Json} {stored : Fields Bson}
    (hsent : ∀ field ∈ sent, field.2.WellFormed) (h : schema.readFields sent = .ok stored) :
    List.Forall₂ schema.ShowsField (sent.filter fun field => isOrdinary field.1)
      (Bson.normalizeFields stored) := by
  -- The induction is on the fields of the body: each is left out, hidden or shown.
  induction sent generalizing stored with
  | nil =>
    cases h
    exact .nil
  | cons field rest ih =>
    obtain ⟨name, value⟩ := field
    obtain ⟨hvalue, hrest⟩ := List.forall_mem_cons.mp hsent
    rw [readFields] at h
    by_cases hid : name = idField
    · -- The identifier has been read by itself.
      rw [if_pos hid] at h
      rw [List.filter_cons_of_neg (by simp [isOrdinary, hid])]
      exact ih hrest h
    · rw [if_neg hid] at h
      obtain ⟨first, hfirst, h⟩ := exists_of_bind_eq_ok h
      obtain ⟨others, hothers, h⟩ := exists_of_bind_eq_ok h
      cases h
      rw [Bson.normalizeFields]
      by_cases hversion : name = versionField
      · -- The version key is stored but not shown.
        rw [if_pos hversion, List.filter_cons_of_neg (by simp [isOrdinary, hversion])]
        exact ih hrest hothers
      · rw [if_neg hversion, List.filter_cons_of_pos (by simp [isOrdinary, hid, hversion])]
        exact .cons (showsField_of_readField hvalue hfirst) (ih hrest hothers)

/-! ### Documents -/

/-- The text of the identifier that an object gives, in lower case, or that of `fresh` if it gives
none. -/
def IdentifiedBy (fresh : ObjectId) (sent : Fields Json) (text : String) : Prop :=
  match Fields.get? sent idField with
  | none | some .null => text = fresh.toHex
  | some (.str given) => (ObjectId.ofHex? given).isSome ∧ text = given.toLower
  | some _ => False

/-- How an inserted object is shown: its identifier first, then its own fields in their order, then
the fields that it leaves out and that start with a value, in the order of their declarations. The
version key is in none of these parts. -/
structure Shows (schema : Schema) (fresh : ObjectId) (sent : Fields Json) (text : String)
    (shown : Fields Json) : Prop where
  identifier : IdentifiedBy fresh sent text
  fields : ∃ own,
    List.Forall₂ schema.ShowsField (sent.filter fun field => isOrdinary field.1) own ∧
    shown = (idField, .str text) :: own ++
      ((schema.defaults.filter fun field =>
        !Fields.contains sent field.1 && isOrdinary field.1).map
          fun field => (field.1, field.2.normalize))

theorem identifiedBy_of_identifier {fresh id : ObjectId} {sent : Fields Json}
    (h : identifier fresh sent = .ok id) : IdentifiedBy fresh sent id.toHex := by
  unfold identifier at h
  unfold IdentifiedBy
  -- Nothing is given, or null, which asks for a fresh identifier as well.
  split at h
  · next hnone =>
    cases h
    rw [hnone]
  · next hnull =>
    cases h
    rw [hnull]
  · -- A text with the digits of an identifier is the only other way to be read.
    next value hnull hvalue =>
    rw [hvalue]
    unfold readId at h
    split at h
    · next text =>
      split at h
      · next hread =>
        cases h
        exact ⟨Option.isSome_of_eq_some hread, (ObjectId.ofHex?_eq_some_iff.mp hread).symm⟩
      · cases h
    · cases h

/-- **A new document**, as it is shown. -/
theorem shows_of_newDocument {schema : Schema} (hnames : schema.DistinctNames) {fresh : ObjectId}
    {sent : Fields Json} (hsent : (Json.obj sent).WellFormed) {document : Document}
    (h : schema.newDocument fresh sent = .ok document) :
    ∃ id, document.id? = some id ∧
      schema.Shows fresh sent id.toHex (Bson.normalizeFields document) := by
  rw [Json.WellFormed, Json.wellFormedFields_iff] at hsent
  obtain ⟨id, stored, hid, hstored, rfl⟩ := newDocument_eq_ok h
  -- The stored fields have the names of the body, except that of the identifier.
  have hkeys := keys_readFields hstored
  -- The identifier comes first, and none of the names comes twice.
  have hdistinct : (Fields.keys ((idField, Bson.objectId id) :: stored)).Nodup := by
    rw [Fields.keys_cons, hkeys, List.nodup_cons]
    exact ⟨by simp, hsent.1.filter _⟩
  rw [Fields.ofPairs_of_nodup hdistinct, fillFields_eq hnames]
  refine ⟨id, rfl, identifiedBy_of_identifier hid, Bson.normalizeFields stored,
    showsFields_of_readFields hsent.2 hstored, ?_⟩
  -- The identifier is shown as its digits.
  have hidentifier : Bson.normalizeFields ((idField, .objectId id) :: stored)
      = (idField, .str id.toHex) :: Bson.normalizeFields stored := by
    rw [Bson.normalizeFields, if_neg (by decide), Bson.normalize]
  -- What is filled in is absent from the body, and is not the identifier.
  have habsent : ∀ field ∈ schema.defaults,
      (decide (field.1 ≠ versionField)
          && !Fields.contains ((idField, Bson.objectId id) :: stored) field.1)
        = (!Fields.contains sent field.1 && isOrdinary field.1) := by
    -- A field is there if it is the identifier or is sent.
    intro field _
    have hcontains : Fields.contains ((idField, Bson.objectId id) :: stored) field.1 = true
        ↔ field.1 = idField ∨ Fields.contains sent field.1 = true := by
      rw [Fields.contains_iff, Fields.contains_iff, Fields.keys_cons, hkeys, List.mem_cons,
        List.mem_filter]
      by_cases hname : field.1 = idField <;> simp [hname]
    unfold isOrdinary
    rw [Bool.eq_iff_iff]
    simp only [Bool.and_eq_true, Bool.not_eq_true', ← Bool.not_eq_true, hcontains,
      decide_eq_true_eq, not_or]
    exact ⟨fun h => ⟨h.2.2, h.2.1, h.1⟩, fun h => ⟨h.2.2, h.2.1, h.1⟩⟩
  -- So the fields behind the identifier are those of the body, then those that have been filled in.
  rw [Bson.normalizeFields_append, hidentifier, Bson.normalizeFields_eq (List.filter _ _),
    List.filter_filter, List.filter_congr habsent]

end Schema

end DocumentApi
