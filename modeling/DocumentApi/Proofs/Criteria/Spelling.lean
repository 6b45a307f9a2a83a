import DocumentApi.Criteria.Query
import DocumentApi.Proofs.Number.Numeral
import DocumentApi.Proofs.Text.Percent
import DocumentApi.Proofs.Text.Pieces

/-!
# Spelling what a token asks

What stands behind the colon of a token is read by trying one form after another: nothing at all, a
keyword, zero, the numeral of another number, and a pattern if it is none of these. So a text means
what it seems to mean only if no earlier form takes it. A **spelling** of a question is a text that
is careful about this: keywords, digits of integers and numerals as they are, and patterns with all
bytes percent-encoded.

* `classify_cases` — the forms in their order, each without the earlier ones;
* `classify_of_writesNumber` — a numeral of a number other than zero counts by its number alone;
* `askable_valueOf` — so a pattern that is asked for has nothing to trim and none of these forms;
* `valueOf_of_spells` — if a question can be asked at all, then each of its spellings asks it;
* `exists_spells` — and it has one.
-/

namespace DocumentApi

namespace Criterion

open Numeral

/-! ### Numerals are not words -/

/-- No word with a letter that numerals do not have is a numeral in another case. -/
theorem lowered_ne_word {cs : List Char} (h : ∀ c ∈ cs, c ∈ numeralChars) {word : String}
    (hword : word.toList.all numeralChars.contains = false) :
    String.ofList (cs.map Char.toLower) ≠ word := by
  have hlower : (numeralChars.all fun c => numeralChars.contains c.toLower) = true := by decide
  rintro rfl
  -- Characters of numerals stay so in lower case, but the word has another character.
  rw [String.toList_ofList, List.all_map, ← Bool.not_eq_true, List.all_eq_true] at hword
  exact hword fun c hc => List.all_eq_true.mp hlower c (h c hc)

theorem ofKeyword?_eq_none {text : String} (h : ∀ c ∈ text.toList, c ∈ numeralChars) :
    ofKeyword? text = none := by
  unfold ofKeyword?
  simp only
  rw [if_neg (lowered_ne_word h (by decide)), if_neg (lowered_ne_word h (by decide)),
    if_neg (lowered_ne_word h (by decide)), if_neg (lowered_ne_word h (by decide))]

/-- What is read as a decimal numeral is none of the words for other numbers. -/
theorem readReal?_of_read? {cs : List Char} {d : Decimal} (h : Decimal.read? cs = some d) :
    readReal? cs = some d.toBinary64 := by
  -- A sign in front does not matter, as the rest is still made of characters of numerals.
  have hbody : ∀ c ∈ (Decimal.takeSign cs).2, c ∈ numeralChars := by
    intro c hc
    refine Decimal.mem_numeralChars_of_read? h c ?_
    unfold Decimal.takeSign at hc
    split at hc
    · exact List.mem_cons_of_mem _ hc
    · exact List.mem_cons_of_mem _ hc
    · exact hc
  have hword : ∀ word : String, word.toList.all numeralChars.contains = false →
      String.ofList ((Decimal.takeSign cs).2.map Char.toLower) ≠ word :=
    fun word => lowered_ne_word hbody
  unfold readReal?
  simp only
  rw [if_neg (not_or.mpr ⟨hword "inf" (by decide), hword "infinity" (by decide)⟩),
    if_neg (hword "nan" (by decide)), h]
  rfl

/-- A finite number is read from a decimal numeral. -/
theorem exists_read?_of_readReal? {cs : List Char} {x : Binary64} (h : readReal? cs = some x)
    (hfinite : x.isFinite = true) : ∃ d, Decimal.read? cs = some d ∧ d.toBinary64 = x := by
  unfold readReal? at h
  simp only at h
  -- The words stand for values that are not finite, so the text is a decimal numeral.
  split_ifs at h
  · cases h
    exact absurd hfinite Bool.false_ne_true
  · cases h
    exact absurd hfinite Bool.false_ne_true
  · exact Option.map_eq_some_iff.mp h

/-- Whether a text is a numeral that is read as a number, which is finite and not zero. -/
structure WritesNumber (text : String) (x : Binary64) : Prop where
  read : readReal? text.toList = some x
  finite : x.isFinite = true
  nonzero : x.isZero = false

/-- The numerals of numbers other than zero ask for their numbers. -/
theorem ofNumeral?_eq_some_iff {text : String} {value : Criterion} :
    ofNumeral? text = some value ↔ ∃ x, WritesNumber text x ∧ value = ofNumber x := by
  unfold ofNumeral?
  constructor
  · intro h
    obtain ⟨x, hx, hvalue⟩ := Option.bind_eq_some_iff.mp h
    obtain ⟨d, hd, rfl⟩ := Option.map_eq_some_iff.mp hx
    -- The number counts if it is finite and not zero.
    split_ifs at hvalue with hproper
    rw [Bool.and_eq_true, Bool.not_eq_true'] at hproper
    exact ⟨_, ⟨readReal?_of_read? hd, hproper.1, hproper.2⟩, (Option.some.inj hvalue).symm⟩
  · rintro ⟨x, hwrites, rfl⟩
    obtain ⟨d, hd, rfl⟩ := exists_read?_of_readReal? hwrites.read hwrites.finite
    rw [hd, Option.map_some, Option.bind_some, hwrites.finite, hwrites.nonzero]
    rfl

/-! ### The forms of a text -/

/-- A text that is none of the keywords, of zero and of the numerals of other numbers, and has
nothing to trim. -/
structure IsPatternText (text : String) : Prop where
  trimmed : Text.trim text = text
  not_keyword : ofKeyword? text = none
  not_zero : text ≠ "0"
  not_numeral : ofNumeral? text = none

theorem classify_of_isPatternText {text : String} (h : IsPatternText text) :
    classify text = .pattern text := by
  unfold classify
  rw [h.not_keyword, h.not_numeral]
  simp only [if_neg h.not_zero, Option.getD_none]

/-- **The forms**, in the order in which they are tried. -/
theorem classify_cases {text : String} (htrim : Text.trim text = text) :
    ofKeyword? text = some (classify text) ∨ (text = "0" ∧ classify text = .int 0) ∨
      ofNumeral? text = some (classify text) ∨
      (IsPatternText text ∧ classify text = .pattern text) := by
  -- By the forms, each after the earlier ones have failed.
  cases hkeyword : ofKeyword? text with
  | some keyword =>
    refine Or.inl ?_
    unfold classify
    rw [hkeyword]
  | none =>
    by_cases hzero : text = "0"
    · refine Or.inr (Or.inl ⟨hzero, ?_⟩)
      unfold classify
      rw [hkeyword]
      exact if_pos hzero
    · cases hnumeral : ofNumeral? text with
      | some number =>
        refine Or.inr (Or.inr (Or.inl ?_))
        unfold classify
        rw [hkeyword, hnumeral]
        simp only [if_neg hzero, Option.getD_some]
      | none =>
        have htext : IsPatternText text := ⟨htrim, hkeyword, hzero, hnumeral⟩
        exact Or.inr (Or.inr (Or.inr ⟨htext, classify_of_isPatternText htext⟩))

/-! ### Questions that can be asked -/

/-- The questions that a text behind a colon can ask. -/
inductive Askable : Criterion → Prop
  | null : Askable .null
  | undefined : Askable .undefined
  | bool (value : Bool) : Askable (.bool value)
  | int {n : Int} (h : n.natAbs ≤ largestExactInteger) : Askable (.int (Int64.ofInt n))
  | double {x : Binary64} {text : String} (hread : readReal? text.toList = some x)
      (hfinite : x.isFinite) (hzero : x.isZero = false) (hnumber : ofNumber x = .double x) :
      Askable (.double x)
  | emptyText : Askable (.string "")
  | pattern {text : String} (h : IsPatternText text) : Askable (.pattern text)

theorem askable_of_ofKeyword? {text : String} {keyword : Criterion}
    (h : ofKeyword? text = some keyword) : Askable keyword := by
  unfold ofKeyword? at h
  simp only at h
  split_ifs at h <;> cases h
  · exact .null
  · exact .undefined
  · exact .bool true
  · exact .bool false

theorem ofNumber_of_toInt? {x : Binary64} {n : Int} (hx : x.toInt? = some n)
    (hn : n.natAbs ≤ largestExactInteger) : ofNumber x = .int (Int64.ofInt n) := by
  unfold ofNumber
  rw [hx]
  exact if_pos hn

theorem ofNumber_of_large {x : Binary64}
    (h : ∀ n, x.toInt? = some n → largestExactInteger < n.natAbs) : ofNumber x = .double x := by
  unfold ofNumber
  cases hint : x.toInt? with
  | none => rfl
  | some n => exact if_neg (Nat.not_le_of_lt (h n hint))

theorem askable_of_ofNumeral? {text : String} {number : Criterion}
    (h : ofNumeral? text = some number) : Askable number := by
  obtain ⟨x, hwrites, rfl⟩ := ofNumeral?_eq_some_iff.mp h
  -- By whether the number is an integer in the exact range, which becomes an integer.
  by_cases hlarge : ∀ n, x.toInt? = some n → largestExactInteger < n.natAbs
  · have hdouble := ofNumber_of_large hlarge
    rw [hdouble]
    exact .double hwrites.read hwrites.finite hwrites.nonzero hdouble
  · push Not at hlarge
    obtain ⟨n, hint, hn⟩ := hlarge
    rw [ofNumber_of_toInt? hint hn]
    exact .int hn

/-- **What can be asked.** -/
theorem askable_valueOf (cs : List Char) : Askable (Criteria.Token.valueOf cs) := by
  unfold Criteria.Token.valueOf
  -- Nothing asks for the empty text; any other text is decoded and trimmed before it is classified.
  split
  · exact .emptyText
  · unfold coerce
    generalize htext : Text.trim (Text.Percent.decode (String.ofList cs)) = text
    have htrim : Text.trim text = text := by
      rw [← htext, Text.trim_trim]
    rcases classify_cases htrim with hkeyword | ⟨-, hzero⟩ | hnumeral | ⟨hpattern, heq⟩
    · exact askable_of_ofKeyword? hkeyword
    · rw [hzero]
      exact Askable.int (n := 0) (Nat.zero_le _)
    · exact askable_of_ofNumeral? hnumeral
    · rw [heq]
      exact .pattern hpattern

/-! ### Spellings -/

/-- The careful ways to write a question behind a colon. -/
inductive Spells : Criterion → List Char → Prop
  | null : Spells .null "null".toList
  | undefined : Spells .undefined "undefined".toList
  | bool (value : Bool) : Spells (.bool value) (toString value).toList
  /-- An integer by its decimal digits. -/
  | int (value : Int64) : Spells (.int value) (toString value.toInt).toList
  /-- Another number by any numeral of it. -/
  | double {x : Binary64} {cs : List Char} (h : readReal? cs = some x) : Spells (.double x) cs
  | emptyText : Spells (.string "") []
  | emptyPattern : Spells (.pattern "") "%20".toList
  /-- A pattern with all its bytes percent-encoded. -/
  | pattern {text : String} {cs : List Char} (hne : text ≠ "")
      (h : Text.Percent.Encodes text cs) : Spells (.pattern text) cs

/-- Whether a character stands for itself, being neither a percent sign nor blank. -/
def isUnencoded (c : Char) : Bool :=
  c ≠ '%' && !Text.isBlank c

/-- A text without percent signs and blanks is not changed before it is read. -/
theorem trim_decode_plain {cs : List Char} (h : cs.all isUnencoded = true) :
    Text.trim (Text.Percent.decode (String.ofList cs)) = String.ofList cs := by
  have hplain : ∀ c ∈ cs, c ≠ '%' ∧ Text.isBlank c = false := by
    simpa [isUnencoded] using h
  -- Without a percent sign there is nothing to decode.
  have hdecode : Text.Percent.decode (String.ofList cs) = String.ofList cs := by
    refine Text.Percent.decode_eq_self ?_
    rw [String.toList_ofList]
    exact fun hmem => (hplain _ hmem).1 rfl
  -- Without blanks there is nothing to trim.
  have htrim : Text.trim (String.ofList cs) = String.ofList cs := by
    refine Text.trim_eq_self ?_
    rw [String.toList_ofList]
    exact fun c hc => (hplain c hc).2
  rw [hdecode, htrim]

/-- Such a text is what it seems to be. -/
theorem valueOf_plain {cs : List Char} (hne : cs ≠ []) (h : cs.all isUnencoded = true) :
    Criteria.Token.valueOf cs = classify (String.ofList cs) := by
  have hempty : ¬ cs.isEmpty = true := by rwa [List.isEmpty_iff]
  unfold Criteria.Token.valueOf coerce
  rw [if_neg hempty, trim_decode_plain h]

/-- A numeral holds neither percent signs nor blanks. -/
theorem all_isUnencoded_of_read? {cs : List Char} {d : Decimal}
    (hread : Decimal.read? cs = some d) : cs.all isUnencoded = true := by
  have hchars := Decimal.mem_numeralChars_of_read? hread
  have hnumerals : numeralChars.all isUnencoded = true := by decide
  exact List.all_eq_true.mpr fun c hc => List.all_eq_true.mp hnumerals c (hchars c hc)

/-- A numeral is classified by its number alone. -/
theorem classify_of_writesNumber {text : String} {x : Binary64} (h : WritesNumber text x) :
    classify text = ofNumber x := by
  obtain ⟨d, hd, -⟩ := exists_read?_of_readReal? h.read h.finite
  -- It is none of the earlier forms: neither a keyword, nor the digit zero.
  have hkeyword : ofKeyword? text = none :=
    ofKeyword?_eq_none (Decimal.mem_numeralChars_of_read? hd)
  have hnumeral : ofNumeral? text = some (ofNumber x) := ofNumeral?_eq_some_iff.mpr ⟨x, h, rfl⟩
  have hnotZero : text ≠ "0" := by
    rintro rfl
    obtain rfl : Binary64.zero false = x := Option.some.inj h.read
    exact absurd h.nonzero (by decide)
  unfold classify
  rw [hkeyword, hnumeral]
  simp only [if_neg hnotZero, Option.getD_some]

/-- A decimal numeral of a number other than zero asks for that number. -/
theorem valueOf_numeral {cs : List Char} {d : Decimal} (hread : Decimal.read? cs = some d)
    (hfinite : d.toBinary64.isFinite = true) (hzero : d.toBinary64.isZero = false) :
    Criteria.Token.valueOf cs = ofNumber d.toBinary64 := by
  have hne : cs ≠ [] := by
    rintro rfl
    cases hread
  have hwrites : WritesNumber (String.ofList cs) d.toBinary64 :=
    ⟨by rw [String.toList_ofList, readReal?_of_read? hread], hfinite, hzero⟩
  rw [valueOf_plain hne (all_isUnencoded_of_read? hread), classify_of_writesNumber hwrites]

/-- The digits of an integer ask for it. -/
theorem valueOf_toString {n : Int} (h : n.natAbs ≤ largestExactInteger) :
    Criteria.Token.valueOf (toString n).toList = .int (Int64.ofInt n) := by
  by_cases hzero : n = 0
  · subst hzero
    -- Zero is not read as a numeral.
    exact valueOf_plain (by decide) (by decide)
  · -- The number of the digits is the integer itself, which the format holds exactly.
    have hpos : 0 < n.natAbs := Int.natAbs_pos.mpr hzero
    have hlt : n.natAbs < 2 ^ 53 := Nat.lt_of_le_of_lt h (by decide)
    have hfits := Binary64.representable_natural hlt
    have hnumber : Decimal.toBinary64 ⟨decide (n < 0), n.natAbs, 0⟩
        = .finite (decide (n < 0)) (n.natAbs * Binary64.unitsPerOne) hfits :=
      Binary64.ofDecimal_natural _ hpos hlt
    have hint : (Binary64.finite (decide (n < 0)) (n.natAbs * Binary64.unitsPerOne) hfits).toInt?
        = some n := by
      rw [Binary64.toInt?_natural, Binary64.place_natAbs]
    have hnotZero : (Binary64.finite (decide (n < 0)) _ hfits).isZero = false := by
      rw [Binary64.isZero_finite, beq_eq_false_iff_ne]
      exact (Nat.mul_pos hpos Binary64.unitsPerOne_pos).ne'
    -- The digits are a numeral of this number, and the number is turned into the integer again.
    rw [valueOf_numeral (Decimal.read?_toString n) (by rw [hnumber]; rfl) (by rwa [hnumber]),
      hnumber]
    exact ofNumber_of_toInt? hint h

theorem valueOf_of_encodes {text : String} {cs : List Char} (hne : text ≠ "")
    (h : Text.Percent.Encodes text cs) :
    Criteria.Token.valueOf cs = classify (Text.trim text) := by
  have hempty : ¬ cs.isEmpty = true := by
    intro hnil
    rw [List.isEmpty_iff] at hnil
    subst hnil
    exact hne (Text.Percent.eq_empty_of_encodes_nil h)
  unfold Criteria.Token.valueOf coerce
  rw [if_neg hempty, Text.Percent.decode_of_encodes h]

/-- **A spelling asks what it spells**, if this can be asked at all. -/
theorem valueOf_of_spells {value : Criterion} {cs : List Char} (hvalue : Askable value)
    (h : Spells value cs) : Criteria.Token.valueOf cs = value := by
  cases h with
  | null => exact valueOf_plain (by decide) (by decide)
  | undefined => exact valueOf_plain (by decide) (by decide)
  | bool value =>
    cases value
    · exact valueOf_plain (by decide) (by decide)
    · exact valueOf_plain (by decide) (by decide)
  | int value =>
    cases hvalue with
    | @int n hn =>
      -- In the exact range an integer is not changed by storing it in 64 bits.
      unfold largestExactInteger at hn
      have hint : (Int64.ofInt n).toInt = n := Int64.toInt_ofInt_of_le (by omega) (by omega)
      rw [hint]
      exact valueOf_toString hn
  | double hread =>
    cases hvalue with
    | double _ hfinite hzero hnumber =>
      obtain ⟨d, hd, rfl⟩ := exists_read?_of_readReal? hread hfinite
      rw [valueOf_numeral hd hfinite hzero, hnumber]
  | emptyText => rfl
  | emptyPattern =>
    -- A blank, of which trimming leaves nothing.
    have hencodes : Text.Percent.Encodes " " "%20".toList := Text.Percent.encodes_encode " "
    have hblank : Text.trim " " = "" := by decide
    have hempty : IsPatternText "" := ⟨by decide, rfl, by decide, rfl⟩
    rw [valueOf_of_encodes (by decide) hencodes, hblank, classify_of_isPatternText hempty]
  | pattern hne hencodes =>
    cases hvalue with
    | pattern htext =>
      rw [valueOf_of_encodes hne hencodes, htext.trimmed, classify_of_isPatternText htext]

/-- **Every question that can be asked has a spelling.** -/
theorem exists_spells {value : Criterion} (hvalue : Askable value) : ∃ cs, Spells value cs := by
  cases hvalue with
  | null => exact ⟨_, .null⟩
  | undefined => exact ⟨_, .undefined⟩
  | bool value => exact ⟨_, .bool value⟩
  | int _ => exact ⟨_, .int _⟩
  | double hread => exact ⟨_, .double hread⟩
  | emptyText => exact ⟨_, .emptyText⟩
  | @pattern text _ =>
    -- The empty text has no bytes to encode, so a blank is written in its place.
    by_cases hne : text = ""
    · subst hne
      exact ⟨_, .emptyPattern⟩
    · exact ⟨_, .pattern hne (Text.Percent.encodes_encode text)⟩

/-- A spelling holds no comma. -/
theorem comma_notMem_of_spells {value : Criterion} {cs : List Char} (hvalue : Askable value)
    (h : Spells value cs) : ',' ∉ cs := by
  cases h with
  | null => decide
  | undefined => decide
  | bool value => cases value <;> decide
  -- Digits and numerals are made of characters of which none is a comma.
  | int value =>
    intro hmem
    exact absurd (Decimal.mem_numeralChars_of_read? (Decimal.read?_toString _) _ hmem) (by decide)
  | double hread =>
    cases hvalue with
    | double _ hfinite =>
      obtain ⟨d, hd, -⟩ := exists_read?_of_readReal? hread hfinite
      exact fun hmem => absurd (Decimal.mem_numeralChars_of_read? hd _ hmem) (by decide)
  | emptyText => exact List.not_mem_nil
  | emptyPattern => decide
  | pattern _ hencodes =>
    -- An encoded text holds percent signs and hexadecimal digits only.
    intro hmem
    rcases Text.Percent.mem_of_encodes hencodes _ hmem with hpercent | hdigit
    · exact absurd hpercent (by decide)
    · exact absurd hdigit (by decide)

end Criterion

end DocumentApi
