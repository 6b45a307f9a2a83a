import DocumentApi.Bson.Extended
import DocumentApi.Normalization
import DocumentApi.Proofs.Steps
import Mathlib.Tactic.SplitIfs

/-!
# JSON that is stored as it is

A JSON value is stored and shown again by two functions that are not inverse to each other: an
object may write a value of a type that JSON lacks, and the version key is not shown. Values without
either are **plain**, and these come back unchanged:

* `normalize_of_ofJson` — a plain value that has a stored form is shown as it was sent;
* `normalizeFields_eq` — the fields of a document are shown one by one, without the version key.

Numbers come back because a JSON text holds only those that have a stored form of their own
(`Json.WellFormed`): integers of 64 bits and finite numbers of the format binary64.
-/

namespace DocumentApi

/-! ### Values that a JSON text can hold -/

namespace Json

/-- Whether fields, once they have been turned into stored values themselves, write one of a type
that JSON lacks. -/
def IsExtended (fields : Fields Json) : Prop :=
  ∃ stored, Bson.fieldsOfJson fields = .ok stored ∧ (Bson.ofExtended? stored).isSome

mutual

/-- What a JSON text can hold: integers that fit 64 bits with or without a sign, other numbers that
are finite, and objects whose names are distinct. -/
def WellFormed : Json → Prop
  | .int value => Int64.minValue.toInt ≤ value ∧ value < UInt64.size
  | .float value => value.isFinite = true
  | .arr items => WellFormedItems items
  | .obj fields => (Fields.keys fields).Nodup ∧ WellFormedFields fields
  | _ => True

/-- Whether all items of an array are well-formed. -/
def WellFormedItems : List Json → Prop
  | [] => True
  | item :: rest => WellFormed item ∧ WellFormedItems rest

/-- Whether the values of all fields are well-formed. -/
def WellFormedFields : List (String × Json) → Prop
  | [] => True
  | (_, value) :: rest => WellFormed value ∧ WellFormedFields rest

end

mutual

/-- Whether no object at any depth of a value has a version key or writes a value of a type that
JSON lacks. -/
def Plain : Json → Prop
  | .arr items => PlainItems items
  | .obj fields =>
    Schema.versionField ∉ Fields.keys fields ∧ ¬ IsExtended fields ∧ PlainFields fields
  | _ => True

/-- Whether all items of an array are plain. -/
def PlainItems : List Json → Prop
  | [] => True
  | item :: rest => Plain item ∧ PlainItems rest

/-- Whether the values of all fields are plain. -/
def PlainFields : List (String × Json) → Prop
  | [] => True
  | (_, value) :: rest => Plain value ∧ PlainFields rest

end

theorem wellFormedItems_iff {items : List Json} :
    WellFormedItems items ↔ ∀ item ∈ items, item.WellFormed := by
  induction items with
  | nil => simp [WellFormedItems]
  | cons item rest ih => rw [WellFormedItems, ih, List.forall_mem_cons]

theorem wellFormedFields_iff {fields : Fields Json} :
    WellFormedFields fields ↔ ∀ field ∈ fields, field.2.WellFormed := by
  induction fields with
  | nil => simp [WellFormedFields]
  | cons field rest ih =>
    obtain ⟨name, value⟩ := field
    rw [WellFormedFields, ih, List.forall_mem_cons]

end Json

namespace Bson

/-! ### Shown values -/

/-- **Shown fields.** The fields of a document are shown one by one, without the version key. -/
theorem normalizeFields_eq (fields : Fields Bson) :
    normalizeFields fields
      = (fields.filter fun field => field.1 ≠ Schema.versionField).map
          fun field => (field.1, field.2.normalize) := by
  induction fields with
  | nil => rfl
  | cons field rest ih =>
    obtain ⟨name, value⟩ := field
    rw [normalizeFields, ih]
    -- The version key is dropped, and every other field stays under its name.
    by_cases hname : name = Schema.versionField
    · rw [if_pos hname, List.filter_cons_of_neg (by simpa using hname)]
    · rw [if_neg hname, List.filter_cons_of_pos (by simpa using hname), List.map_cons]

theorem normalizeFields_append (fields others : Fields Bson) :
    normalizeFields (fields ++ others) = normalizeFields fields ++ normalizeFields others := by
  rw [normalizeFields_eq, normalizeFields_eq, normalizeFields_eq, List.filter_append,
    List.map_append]

/-- What a number stored as an integer of 64 bits is shown as. -/
theorem normalize_of_ofJson_int {value : Int} {stored : Bson}
    (hvalue : Int64.minValue.toInt ≤ value) (h : ofJson (.int value) = .ok stored) :
    stored.normalize = .int value := by
  -- A larger integer has no stored form, so it is in the range.
  rw [ofJson] at h
  split_ifs at h with hlarge
  cases h
  -- What is stored is within the range of 64 bits with a sign, and what is above it is refused.
  have hlow : -2 ^ 63 ≤ value := hvalue
  have hhigh : value < 2 ^ 63 := by
    have hmax : Int64.maxValue.toInt = 2 ^ 63 - 1 := by decide
    omega
  rw [normalize, Int64.toInt_ofInt_of_le hlow hhigh]

mutual

/-- **Plain values come back.** -/
theorem normalize_of_ofJson {value : Json} {stored : Bson} (hvalue : value.WellFormed)
    (hplain : value.Plain) (h : ofJson value = .ok stored) : stored.normalize = value := by
  match value with
  | .null | .bool _ | .str _ =>
    rw [ofJson] at h
    -- Null, booleans and texts are stored as they are.
    cases h
    rfl
  | .int value =>
    rw [Json.WellFormed] at hvalue
    exact normalize_of_ofJson_int hvalue.1 h
  | .float value =>
    rw [Json.WellFormed] at hvalue
    rw [ofJson] at h
    -- Finite numbers are shown as numbers, and no others can be sent.
    cases h
    rw [normalize, Json.ofBinary64, if_pos hvalue]
  | .arr items =>
    rw [Json.WellFormed] at hvalue
    rw [Json.Plain] at hplain
    rw [ofJson] at h
    -- Items and fields come back by the statements about lists below.
    obtain ⟨values, hvalues, rfl⟩ := exists_of_map_eq_ok h
    rw [normalize, normalizeItems_of_itemsOfJson hvalue hplain hvalues]
  | .obj fields =>
    rw [Json.WellFormed] at hvalue
    rw [Json.Plain] at hplain
    rw [ofJson] at h
    obtain ⟨values, hvalues, rfl⟩ := exists_of_map_eq_ok h
    obtain ⟨hversion, hextended, hfields⟩ := hplain
    -- The object stays an object, since it writes nothing else.
    have hnone : ofExtended? values = none := by
      rw [← Option.not_isSome_iff_eq_none]
      exact fun hsome => hextended ⟨values, hvalues, hsome⟩
    rw [hnone, Option.getD_none, normalize,
      normalizeFields_of_fieldsOfJson hvalue.2 hfields hversion hvalues]

/-- Plain items come back, in their order. -/
theorem normalizeItems_of_itemsOfJson {items : List Json} {values : List Bson}
    (hitems : Json.WellFormedItems items) (hplain : Json.PlainItems items)
    (h : itemsOfJson items = .ok values) : normalizeItems values = items := by
  match items with
  | [] =>
    rw [itemsOfJson] at h
    cases h
    rfl
  | item :: rest =>
    rw [Json.WellFormedItems] at hitems
    rw [Json.PlainItems] at hplain
    rw [itemsOfJson] at h
    obtain ⟨value, hvalue, h⟩ := exists_of_bind_eq_ok h
    obtain ⟨others, hothers, h⟩ := exists_of_bind_eq_ok h
    cases h
    rw [normalizeItems, normalize_of_ofJson hitems.1 hplain.1 hvalue,
      normalizeItems_of_itemsOfJson hitems.2 hplain.2 hothers]

/-- Plain fields come back under their names, in their order. -/
theorem normalizeFields_of_fieldsOfJson {fields : List (String × Json)}
    {values : List (String × Bson)} (hfields : Json.WellFormedFields fields)
    (hplain : Json.PlainFields fields) (hversion : Schema.versionField ∉ Fields.keys fields)
    (h : fieldsOfJson fields = .ok values) : normalizeFields values = fields := by
  match fields with
  | [] =>
    rw [fieldsOfJson] at h
    cases h
    rfl
  | (name, value) :: rest =>
    rw [Json.WellFormedFields] at hfields
    rw [Json.PlainFields] at hplain
    rw [Fields.keys_cons, List.mem_cons, not_or] at hversion
    rw [fieldsOfJson] at h
    obtain ⟨stored, hstored, h⟩ := exists_of_bind_eq_ok h
    obtain ⟨others, hothers, h⟩ := exists_of_bind_eq_ok h
    -- The name is not that of the version key, so the field is shown.
    cases h
    rw [normalizeFields, if_neg (Ne.symm hversion.1),
      normalize_of_ofJson hfields.1 hplain.1 hstored,
      normalizeFields_of_fieldsOfJson hfields.2 hplain.2 hversion.2 hothers]

end

end Bson

end DocumentApi
