import DocumentApi.ObjectId
import DocumentApi.Proofs.Text.Percent
import Mathlib.Data.List.Induction

/-!
# Identifiers in either letter case

An identifier is read from digits of either case and written with lower-case ones, so reading and
writing it again puts its text into lower case:

* `Text.Hex.fixed_of_value?` — the digits of the number that a text writes are its own, in lower
  case;
* `ObjectId.ofHex?_eq_some_iff` — the texts that are read as an identifier are those whose
  lower-case form it is written as;
* `ObjectId.isSome_ofHex?_iff` — a text is read as some identifier if it has twenty-four
  hexadecimal digits and nothing else;
* `ObjectId.isLowerHex_toHex` — an identifier is written with twenty-four lower-case digits.
-/

namespace DocumentApi

namespace Text.Hex

/-- A digit is below 16, and the digit of its value is its lower-case form. -/
theorem digit_of_digitValue? {c : Char} {value : Nat} (h : digitValue? c = some value) :
    value < 16 ∧ digit value = c.toLower := by
  -- The digits are ASCII characters, which are all tried.
  have hall : ∀ n < 128, (digitValue? (Char.ofNat n)).all fun value =>
      value < 16 && digit value == (Char.ofNat n).toLower := by decide
  have hc := hall c.toNat (Percent.ascii_of_digitValue? h)
  rw [Char.ofNat_toNat, h, Option.all_some, Bool.and_eq_true, decide_eq_true_iff, beq_iff_eq] at hc
  exact hc

/-- The value of a digit does not depend on its case. -/
theorem digitValue?_toLower (c : Char) : digitValue? c.toLower = digitValue? c := by
  by_cases hascii : c.toNat < 128
  · -- The same, for those of ASCII.
    have hall : ∀ n < 128, digitValue? (Char.ofNat n).toLower = digitValue? (Char.ofNat n) := by
      decide
    have hc := hall c.toNat hascii
    rwa [Char.ofNat_toNat] at hc
  · -- Only ASCII letters have another form.
    have hnot : ¬ (c.val ≥ 'A'.val ∧ c.val ≤ 'Z'.val) := by
      rintro ⟨-, hle⟩
      exact hascii (Nat.lt_of_le_of_lt hle (by decide))
    unfold Char.toLower
    rw [dif_neg hnot]

/-- The hexadecimal digits in either case. -/
def digits : List Char :=
  "0123456789abcdefABCDEF".toList

theorem isSome_digitValue?_iff {c : Char} : (digitValue? c).isSome ↔ c ∈ digits := by
  have hall : ∀ n < 128, (digitValue? (Char.ofNat n)).isSome ↔ Char.ofNat n ∈ digits := by
    decide +kernel
  -- A character with a value is one of ASCII, among which the digits are found by trying.
  constructor
  · intro h
    obtain ⟨value, hvalue⟩ := Option.isSome_iff_exists.mp h
    have hc := hall c.toNat (Percent.ascii_of_digitValue? hvalue)
    rw [Char.ofNat_toNat] at hc
    exact hc.mp h
  · intro h
    have hdigits : digits.all (fun d => (digitValue? d).isSome) = true := by decide
    exact List.all_eq_true.mp hdigits c h

theorem isSome_valueFrom?_iff {cs : List Char} {start : Nat} :
    (valueFrom? start cs).isSome ↔ ∀ c ∈ cs, c ∈ digits := by
  induction cs generalizing start with
  | nil => exact iff_of_true rfl fun _ hc => absurd hc List.not_mem_nil
  | cons c rest ih =>
    rw [valueFrom?, List.forall_mem_cons, ← isSome_digitValue?_iff]
    -- A character that is no digit ends the reading.
    cases digitValue? c with
    | none => exact iff_of_false Bool.false_ne_true fun h => Bool.false_ne_true h.1
    | some value => exact ih.trans (and_iff_right rfl).symm

/-- The hexadecimal digits in lower case. -/
def lowerDigits : List Char :=
  "0123456789abcdef".toList

/-- Numbers are written with lower-case digits. -/
theorem mem_lowerDigits_of_mem_fixed {count n : Nat} {c : Char} (h : c ∈ fixed count n) :
    c ∈ lowerDigits := by
  have hdigit : ∀ value < 16, digit value ∈ lowerDigits := by decide
  induction count generalizing n with
  | zero => cases h
  | succ count ih =>
    -- The last digit is written behind the others.
    rw [fixed, List.mem_append, List.mem_singleton] at h
    rcases h with hhigh | rfl
    · exact ih hhigh
    · exact hdigit (n % 16) (Nat.mod_lt n (by decide))

/-- What digits write does not depend on their case. -/
theorem value?_map_toLower (cs : List Char) : value? (cs.map Char.toLower) = value? cs := by
  unfold value?
  generalize 0 = start
  induction cs generalizing start with
  | nil => rfl
  | cons c rest ih =>
    -- Digit by digit, from whatever has been read before.
    rw [List.map_cons, valueFrom?, valueFrom?, digitValue?_toLower]
    exact Option.bind_congr fun value _ => ih _

/-- **The digits of a number that is read** are those that were read, in lower case. -/
theorem fixed_of_value? {cs : List Char} {n : Nat} (h : value? cs = some n) :
    fixed cs.length n = cs.map Char.toLower := by
  -- Digits are written from the last one on.
  induction cs using List.reverseRecOn generalizing n with
  | nil => rfl
  | append_singleton cs c ih =>
    unfold value? at h
    rw [valueFrom?_append] at h
    obtain ⟨high, hhigh, hlow⟩ := Option.bind_eq_some_iff.mp h
    obtain ⟨low, hdigit, rfl⟩ := Option.map_eq_some_iff.mp hlow
    obtain ⟨hlt, hlower⟩ := digit_of_digitValue? hdigit
    -- The last digit is what is left when the number is divided by sixteen.
    have hdiv : (16 * high + low) / 16 = high := by omega
    have hmod : (16 * high + low) % 16 = low := by omega
    rw [List.length_append, List.length_singleton, fixed, hdiv, hmod, ih hhigh, hlower,
      List.map_append, List.map_singleton]

end Text.Hex

namespace ObjectId

/-- **Either letter case.** The texts of an identifier are those that it is written as when they are
put into lower case. -/
theorem ofHex?_eq_some_iff {text : String} {id : ObjectId} :
    ofHex? text = some id ↔ text.toLower = id.toHex := by
  have hlower : text.toLower.toList = text.toList.map Char.toLower := String.toList_map
  constructor
  · -- The digits that were read are those that are written.
    intro h
    unfold ofHex? at h
    split_ifs at h with hlength
    obtain ⟨n, hn, rfl⟩ := Option.map_eq_some_iff.mp h
    have hfixed := Text.Hex.fixed_of_value? hn
    rw [hlength] at hfixed
    -- Twenty-four digits write a number that fits.
    have hfits : n % Nat.pow 16 24 = n := by
      have hread := Text.Hex.value?_fixed 24 n
      rw [hfixed, Text.Hex.value?_map_toLower, hn, Option.some.injEq] at hread
      exact hread.symm
    rw [← String.toList_inj, hlower, toHex, String.toList_ofList, ofNat]
    simp only [hfits, hfixed]
  · -- The text in lower case is read, and reading does not depend on the case.
    intro h
    have hread := ofHex?_toHex id
    rw [← h] at hread
    unfold ofHex? at hread ⊢
    rwa [hlower, List.length_map, Text.Hex.value?_map_toLower] at hread

/-- Whether a text is made of twenty-four hexadecimal digits. -/
def IsHex (text : String) : Prop :=
  text.toList.length = 24 ∧ ∀ c ∈ text.toList, c ∈ Text.Hex.digits

theorem isSome_ofHex?_iff {text : String} : (ofHex? text).isSome ↔ IsHex text := by
  unfold ofHex? IsHex
  -- The length is what is asked for first.
  by_cases hlength : text.toList.length = 24
  · rw [if_pos hlength, Option.isSome_map, and_iff_right hlength]
    exact Text.Hex.isSome_valueFrom?_iff
  · rw [if_neg hlength]
    exact iff_of_false Bool.false_ne_true fun h => hlength h.1

/-- Whether a text is made of twenty-four hexadecimal digits in lower case. -/
def IsLowerHex (text : String) : Prop :=
  text.toList.length = 24 ∧ ∀ c ∈ text.toList, c ∈ Text.Hex.lowerDigits

theorem isLowerHex_toHex (id : ObjectId) : IsLowerHex id.toHex := by
  have htext : id.toHex.toList = Text.Hex.fixed 24 id.val := String.toList_ofList
  unfold IsLowerHex
  rw [htext]
  exact ⟨Text.Hex.length_fixed 24 id.val, fun c => Text.Hex.mem_lowerDigits_of_mem_fixed⟩

end ObjectId

end DocumentApi
