import DocumentApi.Text.Percent
import Mathlib.Data.List.Forall2
import Mathlib.Data.Nat.Notation

/-!
# Percent-encoding is undone by decoding

Decoding works on bytes and falls back to the text as it stands, so two things have to be known of a
text before it can be said what it decodes to: which of its bytes are percent signs, and that the
decoded bytes are UTF-8.

* `decode_eq_self` — a text without a percent sign is left as it is. In UTF-8 the byte 0x25 is the
  percent sign wherever it stands;
* `decode_of_encodes` — if every byte of a text is written as a percent sign with two hexadecimal
  digits, of either case, then decoding gives the text back;
* `encodes_encode` — which is how `encode` writes it.
-/

namespace DocumentApi.Text.Percent

/-! ### Bytes -/

/-- The bytes that write characters in UTF-8. -/
def bytesOf (cs : List Char) : List UInt8 :=
  cs.flatMap String.utf8EncodeChar

theorem toUTF8_ofList (cs : List Char) : (String.ofList cs).toUTF8.data.toList = bytesOf cs := by
  rw [String.toUTF8_eq_toByteArray, String.toByteArray_ofList]
  exact List.toList_data_toByteArray

theorem toUTF8_eq (text : String) : text.toUTF8.data.toList = bytesOf text.toList := by
  rw [← toUTF8_ofList, String.ofList_toList]

/-- Decoding gives the text whose bytes are the decoded ones, if there is one. -/
theorem decode_of_decodeBytes {source text : String}
    (h : decodeBytes source.toUTF8.data.toList = text.toUTF8.data.toList) :
    decode source = text := by
  unfold decode
  rw [h]
  -- The decoded bytes are those of a text, so that there is one to give.
  have hbytes : (⟨text.toUTF8.data.toList.toArray⟩ : ByteArray) = text.toByteArray := by
    rw [Array.toArray_toList, String.toUTF8_eq_toByteArray]
  have hvalid : text.toByteArray.IsValidUTF8 := text.isValidUTF8
  rw [hbytes, String.fromUTF8?, dif_pos hvalid, Option.getD_some]
  rfl

/-- An ASCII character is a single byte. -/
-- The character is below the first bound of the encoding.
theorem utf8EncodeChar_of_ascii {c : Char} (h : c.toNat < 128) :
    String.utf8EncodeChar c = [UInt8.ofNat c.toNat] := by
  have hle : c.val.toNat ≤ 0x7f := Nat.le_of_lt_succ h
  unfold String.utf8EncodeChar
  simp only [if_pos hle]
  rfl

/-- The bytes of any other character are none of ASCII. -/
theorem le_of_mem_utf8EncodeChar {c : Char} (h : 128 ≤ c.toNat) {byte : UInt8}
    (hbyte : byte ∈ String.utf8EncodeChar c) : 128 ≤ byte.toNat := by
  have hle : ¬ c.val.toNat ≤ 0x7f := Nat.not_le_of_lt h
  -- The first byte starts with at least two binary ones, and each further one with `10`.
  have hlarge : ∀ n, 128 ≤ n → n < 256 → byte = UInt8.ofNat n → 128 ≤ byte.toNat := by
    rintro n hlow hhigh rfl
    rwa [UInt8.toNat_ofNat_of_lt' hhigh]
  unfold String.utf8EncodeChar at hbyte
  simp only [if_neg hle] at hbyte
  -- There are two, three or four bytes.
  split_ifs at hbyte <;> simp only [List.mem_cons, List.not_mem_nil, or_false] at hbyte
  · rcases hbyte with hbyte | hbyte <;> exact hlarge _ (by omega) (by omega) hbyte
  · rcases hbyte with hbyte | hbyte | hbyte <;> exact hlarge _ (by omega) (by omega) hbyte
  · rcases hbyte with hbyte | hbyte | hbyte | hbyte <;>
      exact hlarge _ (by omega) (by omega) hbyte

/-- The byte of the percent sign writes nothing else. -/
theorem eq_percent_of_mem_utf8EncodeChar {c : Char} (h : 0x25 ∈ String.utf8EncodeChar c) :
    c = '%' := by
  -- A single byte is the character itself; the bytes of all others are too large.
  by_cases hascii : c.toNat < 128
  · rw [utf8EncodeChar_of_ascii hascii, List.mem_singleton] at h
    have hnat := congrArg UInt8.toNat h
    rw [UInt8.toNat_ofNat_of_lt' (by change c.toNat < 256; omega)] at hnat
    exact Char.toNat_inj.mp hnat.symm
  · exact absurd (le_of_mem_utf8EncodeChar (by omega) h) (by decide)

/-! ### Texts without percent signs -/

theorem decodeBytes_cons_of_ne {byte : UInt8} (h : byte ≠ 0x25) (rest : List UInt8) :
    decodeBytes (byte :: rest) = byte :: decodeBytes rest := by
  -- Bytes are decoded by threes, so the last two are looked at on their own.
  match rest with
  | [] => simp only [decodeBytes]
  | [high] => simp only [decodeBytes]
  | high :: low :: rest => rw [decodeBytes, if_neg h]

theorem decodeBytes_eq_self {bytes : List UInt8} (h : 0x25 ∉ bytes) : decodeBytes bytes = bytes := by
  induction bytes with
  | nil => rw [decodeBytes]
  -- The first byte is another one, and the percent sign is not among the rest either.
  | cons byte rest ih =>
    rw [List.mem_cons, not_or] at h
    rw [decodeBytes_cons_of_ne (Ne.symm h.1), ih h.2]

/-- **Plain texts** stand for themselves. -/
theorem decode_eq_self {text : String} (h : '%' ∉ text.toList) : decode text = text := by
  refine decode_of_decodeBytes (decodeBytes_eq_self ?_)
  rw [toUTF8_eq]
  intro hmem
  -- The byte of a percent sign can only be there for the sign itself.
  obtain ⟨c, hc, hbyte⟩ := List.mem_flatMap.mp hmem
  exact h (eq_percent_of_mem_utf8EncodeChar hbyte ▸ hc)

/-! ### Encoded texts -/

/-- Three characters that write a byte: a percent sign and two hexadecimal digits, each of either
case. -/
def WritesByte (byte : UInt8) (group : List Char) : Prop :=
  ∃ high low h l, group = ['%', high, low] ∧ Hex.digitValue? high = some h ∧
    Hex.digitValue? low = some l ∧ byte = UInt8.ofNat (16 * h + l)

/-- Whether characters write a text with all its bytes percent-encoded. -/
def Encodes (text : String) (cs : List Char) : Prop :=
  ∃ groups, List.Forall₂ WritesByte text.toUTF8.data.toList groups ∧ cs = groups.flatten

/-- Hexadecimal digits are ASCII. -/
theorem ascii_of_digitValue? {c : Char} {value : Nat} (h : Hex.digitValue? c = some value) :
    c.toNat < 128 := by
  have hle : ∀ last : Char, c ≤ last → c.toNat ≤ last.toNat := fun _ hc => hc
  unfold Hex.digitValue? at h
  -- A digit is at most the last one of its kind, which is ASCII.
  split_ifs at h with hdigit hlower hupper
  · exact Nat.lt_of_le_of_lt (hle _ hdigit.2) (by decide)
  · exact Nat.lt_of_le_of_lt (hle _ hlower.2) (by decide)
  · exact Nat.lt_of_le_of_lt (hle _ hupper.2) (by decide)

theorem hexValue?_ofNat {c : Char} (h : c.toNat < 128) :
    hexValue? (UInt8.ofNat c.toNat) = Hex.digitValue? c := by
  unfold hexValue?
  rw [UInt8.toNat_ofNat_of_lt' (by change c.toNat < 256; omega), Char.ofNat_toNat]

/-- One encoded byte is decoded, whatever follows. -/
theorem decodeBytes_group {byte : UInt8} {group : List Char} (h : WritesByte byte group)
    (rest : List UInt8) : decodeBytes (bytesOf group ++ rest) = byte :: decodeBytes rest := by
  obtain ⟨high, low, h, l, rfl, hhigh, hlow, rfl⟩ := h
  have hhighAscii := ascii_of_digitValue? hhigh
  have hlowAscii := ascii_of_digitValue? hlow
  -- Being ASCII, the three characters are three bytes.
  have hbytes : bytesOf ['%', high, low]
      = [0x25, UInt8.ofNat high.toNat, UInt8.ofNat low.toNat] := by
    simp only [bytesOf, List.flatMap_cons, List.flatMap_nil, utf8EncodeChar_of_ascii hhighAscii,
      utf8EncodeChar_of_ascii hlowAscii]
    rfl
  -- So the two digits are read as the byte that they write.
  have hpair : pairValue? (UInt8.ofNat high.toNat) (UInt8.ofNat low.toNat)
      = some (UInt8.ofNat (16 * h + l)) := by
    unfold pairValue?
    rw [hexValue?_ofNat hhighAscii, hexValue?_ofNat hlowAscii, hhigh, hlow]
    rfl
  rw [hbytes, List.cons_append, List.cons_append, List.cons_append, List.nil_append, decodeBytes,
    if_pos rfl, hpair]

/-- **Decoding undoes encoding**, in whatever case the digits are written. -/
theorem decode_of_encodes {text : String} {cs : List Char} (h : Encodes text cs) :
    decode (String.ofList cs) = text := by
  obtain ⟨groups, hgroups, rfl⟩ := h
  refine decode_of_decodeBytes ?_
  rw [toUTF8_ofList]
  -- Byte by byte, each group of characters being read off the front.
  -- The text is given by its bytes only, so they are taken as any list.
  generalize text.toUTF8.data.toList = bytes at hgroups
  induction hgroups with
  | nil => rw [List.flatten_nil, bytesOf, List.flatMap_nil, decodeBytes]
  | cons hbyte _ ih =>
    rw [List.flatten_cons, bytesOf, List.flatMap_append]
    rw [bytesOf] at ih
    exact (decodeBytes_group hbyte _).trans (congrArg _ ih)

/-- An encoded text is made of percent signs and hexadecimal digits. -/
theorem mem_of_encodes {text : String} {cs : List Char} (h : Encodes text cs) :
    ∀ c ∈ cs, c = '%' ∨ (Hex.digitValue? c).isSome := by
  obtain ⟨groups, hgroups, rfl⟩ := h
  generalize text.toUTF8.data.toList = bytes at hgroups
  -- No byte is written by no characters.
  induction hgroups with
  | nil => exact fun c hc => absurd hc List.not_mem_nil
  | cons hbyte _ ih =>
    intro c hc
    rw [List.flatten_cons, List.mem_append] at hc
    rcases hc with hc | hc
    · -- A character of the first group is its percent sign or one of its two digits.
      obtain ⟨high, low, h, l, rfl, hhigh, hlow, -⟩ := hbyte
      simp only [List.mem_cons, List.not_mem_nil, or_false] at hc
      rcases hc with rfl | rfl | rfl
      · exact Or.inl rfl
      · exact Or.inr (Option.isSome_of_eq_some hhigh)
      · exact Or.inr (Option.isSome_of_eq_some hlow)
    · exact ih c hc

/-- The empty text alone is written by nothing. -/
theorem eq_empty_of_encodes_nil {text : String} (h : Encodes text []) : text = "" := by
  -- No characters are decoded to the text, and they stand for themselves as well.
  have hnil : decode "" = text := decode_of_encodes h
  rw [decode_eq_self (by simp)] at hnil
  exact hnil.symm

theorem writesByte_encodeByte (byte : UInt8) : WritesByte byte (encodeByte byte) := by
  have hbyte : byte.toNat < 256 := byte.toNat_lt
  refine ⟨Hex.digit (byte.toNat / 16 % 16), Hex.digit (byte.toNat % 16), byte.toNat / 16 % 16,
    byte.toNat % 16, rfl, Hex.digitValue?_digit _ (by omega), Hex.digitValue?_digit _ (by omega),
    ?_⟩
  -- The two digits are the quotient and the remainder of the byte.
  have hdigits : 16 * (byte.toNat / 16 % 16) + byte.toNat % 16 = byte.toNat := by omega
  rw [hdigits, UInt8.ofNat_toNat]

/-- **Encoding** is one of the ways to write all bytes percent-encoded. -/
theorem encodes_encode (text : String) : Encodes text (encode text).toList := by
  refine ⟨text.toUTF8.data.toList.map encodeByte, ?_, ?_⟩
  · -- Every byte has its group, in order.
    induction text.toUTF8.data.toList with
    | nil => exact List.Forall₂.nil
    | cons byte rest ih => exact List.Forall₂.cons (writesByte_encodeByte byte) ih
  · rw [encode, String.toList_ofList, List.flatMap_def]

end DocumentApi.Text.Percent
