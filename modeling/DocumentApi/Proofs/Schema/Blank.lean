import DocumentApi.Proofs.Schema.BodyReading

/-!
# Blank values

A required field is blank if it holds null or the empty text. Stored values are so exactly if they
were sent so: null is stored as null and a text as itself, and no object writes one of them, however
many types of values objects can write.

* `Bson.neverBlank_ofExtended?` — what an object writes is not blank;
* `Schema.isBlank_of_storesField` — a stored field is blank if and only if it was sent blank.
-/

namespace DocumentApi

namespace Bson

/-- Whether a value, if there is one, is neither null nor the empty text. -/
def NeverBlank (found : Option Bson) : Prop :=
  ∀ stored ∈ found, Schema.isBlank (some stored) = false

theorem neverBlank_none : NeverBlank none :=
  fun _ h => absurd h (Option.not_mem_none _)

theorem neverBlank_some {stored : Bson} (h : Schema.isBlank (some stored) = false) :
    NeverBlank (some stored) := by
  rintro _ ⟨⟩
  exact h

theorem NeverBlank.bind {α : Type} {next : α → Option Bson} (h : ∀ value, NeverBlank (next value))
    (found : Option α) : NeverBlank (found.bind next) := by
  intro stored hstored
  obtain ⟨value, -, hnext⟩ := Option.bind_eq_some_iff.mp hstored
  exact h value stored hnext

theorem NeverBlank.map {α : Type} {make : α → Bson}
    (h : ∀ value, Schema.isBlank (some (make value)) = false) (found : Option α) :
    NeverBlank (found.map make) := by
  intro stored hstored
  obtain ⟨value, -, rfl⟩ := Option.map_eq_some_iff.mp hstored
  exact h value

/-! ### What objects write -/

theorem neverBlank_binaryOf? (fields : Document) : NeverBlank (binaryOf? fields) := by
  unfold binaryOf?
  -- The steps before the last one read the bytes and the subtype, and give no value yet.
  refine .bind (fun _ => .bind (fun _ => .bind (fun bytes => .bind (fun _ => .bind (fun subtype =>
    ?_) _) _) _) _) _
  -- The bytes stand for a binary value if the subtype is a byte, and for nothing otherwise.
  simp only
  split
  · exact .bind (fun _ => neverBlank_some rfl) _
  · exact neverBlank_none

theorem neverBlank_timestampOf? (fields : Document) : NeverBlank (timestampOf? fields) := by
  unfold timestampOf?
  -- The two numbers of an instant make a timestamp if both are in range.
  split
  · exact neverBlank_some rfl
  · simp only
    split
    · exact neverBlank_some rfl
    · exact neverBlank_none
  · exact neverBlank_none

theorem neverBlank_regexOf? (fields : Document) : NeverBlank (regexOf? fields) := by
  unfold regexOf?
  refine .bind (fun _ => .bind (fun pattern => .bind (fun _ => .bind (fun options => ?_) _) _) _) _
  -- Neither the pattern nor its options may hold NUL.
  split
  · exact neverBlank_none
  · exact neverBlank_some rfl

theorem neverBlank_dbPointerOf? (fields : Document) : NeverBlank (dbPointerOf? fields) :=
  .bind (fun _ => .bind (fun _ => .bind (fun _ => .bind (fun _ => neverBlank_some rfl) _) _) _) _

theorem neverBlank_dateOf? (value : Bson) : NeverBlank (dateOf? value) := by
  unfold dateOf?
  -- An instant is written as a text or as a number of milliseconds, and is a date either way.
  split
  · exact neverBlank_some rfl
  · exact .map (fun _ => rfl) _
  · exact neverBlank_none

theorem neverBlank_ofWrapper? (name : String) (value : Bson) :
    NeverBlank (ofWrapper? name value) := by
  unfold ofWrapper?
  split
  -- Some of the names lead to an object of their own, or to an instant.
  case h_7 => exact .bind neverBlank_binaryOf? _
  case h_9 => exact .bind neverBlank_timestampOf? _
  case h_10 => exact .bind neverBlank_regexOf? _
  case h_11 => exact .bind neverBlank_dbPointerOf? _
  case h_12 => exact neverBlank_dateOf? value
  -- All others make one type of value from a text, or one value from a mark.
  all_goals first
    | exact .bind (fun _ => .map (fun _ => rfl) _) _
    | exact .map (fun _ => rfl) _
    | exact neverBlank_none
    | split <;> first | exact neverBlank_some rfl | exact neverBlank_none

/-- **What an object writes** is neither null nor a text. -/
theorem neverBlank_ofExtended? (fields : Document) : NeverBlank (ofExtended? fields) := by
  unfold ofExtended?
  -- One entry makes a wrapper, two entries may make code with its scope, and others make nothing.
  split
  · exact neverBlank_ofWrapper? _ _
  · exact .bind (fun _ => .bind (fun _ => .bind (fun _ => .bind (fun _ => neverBlank_some rfl) _)
      _) _) _
  · exact neverBlank_none

end Bson

namespace Schema

/-- Whether a value is sent as null or as the empty text. -/
def isSentBlank : Json → Bool
  | .null => true
  | .str text => text == ""
  | _ => false

variable {value : Json} {stored : Bson}

theorem isBlank_of_ofJson (h : Bson.ofJson value = .ok stored) :
    isBlank (some stored) = isSentBlank value := by
  -- Lists and objects are stored as lists and objects, unless an object is one that writes a value.
  cases value with
  | int number =>
    rw [Bson.ofJson] at h
    split at h
    · cases h
    · cases h
      rfl
  | arr items =>
    rw [Bson.ofJson] at h
    obtain ⟨values, -, rfl⟩ := exists_of_map_eq_ok h
    rfl
  | obj fields =>
    rw [Bson.ofJson] at h
    obtain ⟨values, -, rfl⟩ := exists_of_map_eq_ok h
    cases hwritten : Bson.ofExtended? values with
    | none => rfl
    -- What is written is not blank, and neither is the object that it was sent as.
    | some written => exact Bson.neverBlank_ofExtended? values written hwritten
  | _ =>
    cases h
    rfl

theorem isBlank_of_storesReference (h : StoresReference value stored) :
    isBlank (some stored) = isSentBlank value := by
  obtain _ | hid := h
  · -- Null is stored as null, so both are blank.
    rfl
  · next text id =>
    -- The empty text has no digits.
    have hne : text ≠ "" := by
      rintro rfl
      have hnone : ObjectId.ofHex? "" = none := rfl
      rw [hnone] at hid
      cases hid
    exact (beq_eq_false_iff_ne.mpr hne).symm

/-- **Blank fields.** A field of a body is stored blank if and only if it was sent blank. -/
theorem isBlank_of_storesField {schema : Schema} {field : String × Json}
    (h : schema.StoresField field stored) : isBlank (some stored) = isSentBlank field.2 := by
  unfold StoresField at h
  split at h
  · -- A reference field is stored as an identifier, as null or as a list.
    obtain ⟨name, sent⟩ := field
    rcases h with hone | hlist
    · exact isBlank_of_storesReference hone
    · rfl
  · exact isBlank_of_ofJson h

end Schema

end DocumentApi
