import DocumentApi.Proofs.Criteria.Spelling
import DocumentApi.Proofs.Number.Integer
import DocumentApi.Proofs.Text.Casing

/-!
# The canonical form of a raw value

A raw value is decoded and trimmed, and the text that is left is read by trying one form after
another. What comes out can also be said without this order: each question is asked by the texts
that **mean** it, and the conditions of the meanings exclude each other.

* `coerce_eq_iff` — a raw value asks for exactly what its text means. It never asks for a plain text
  or for something nested, and zero is asked for by `0` alone;
* `eq_of_sameValue` — whatever the texts, questions about the same number are the same: an integer
  that a double could represent as well is never a double;
* `coerce_canonical` — both, with what is known of numerals and of percent-encoded texts: the former
  count by their number alone, and the latter are not decoded a second time.
-/

namespace DocumentApi

namespace Criterion

open Numeral

/-! ### What a text means -/

/-- The text of a raw value: decoded, and trimmed. -/
def textOf (token : String) : String :=
  Text.trim (Text.Percent.decode token)

/-- The keywords with what they stand for. -/
def keywords : List (String × Criterion) :=
  [("null", .null), ("undefined", .undefined), ("true", .bool true), ("false", .bool false)]

/-- What a text means, each meaning by what is required of the text. A number is an integer as long
as all integers of its magnitude are numbers of the format, and a double otherwise. -/
inductive Means (text : String) : Criterion → Prop
  | keyword {word : String} {value : Criterion} (hmem : (word, value) ∈ keywords)
      (hcasing : Text.IsCasingOf text word) : Means text value
  | zero (h : text = "0") : Means text (.int 0)
  | int {n : Int64} {x : Binary64} (hwrites : WritesNumber text x)
      (hint : x.toInt? = some n.toInt) (hne : n ≠ 0) (hbound : n.toInt.natAbs ≤ 2 ^ 53 - 1) :
      Means text (.int n)
  | double {x : Binary64} (hwrites : WritesNumber text x)
      (hlarge : ∀ n, x.toInt? = some n → 2 ^ 53 - 1 < n.natAbs) : Means text (.double x)
  | pattern (hfirst : ∀ c ∈ text.toList.head?, Text.isBlank c = false)
      (hlast : ∀ c ∈ text.toList.getLast?, Text.isBlank c = false)
      (hkeyword : ∀ entry ∈ keywords, ¬ Text.IsCasingOf text entry.1) (hzero : text ≠ "0")
      (hnumeral : ∀ x, ¬ WritesNumber text x) : Means text (.pattern text)

/-! ### Keywords -/

/-- A text is a keyword in some letter case if its lower-case form is the keyword. -/
theorem isCasingOf_keyword_iff {text : String} {entry : String × Criterion}
    (h : entry ∈ keywords) : Text.IsCasingOf text entry.1 ↔
      String.ofList (text.toList.map Char.toLower) = entry.1 := by
  -- The keywords are in lower case themselves.
  have hlower : ∀ entry ∈ keywords, entry.1.toList.any Char.isUpper = false := by decide
  rw [Text.isCasingOf_iff (hlower entry h), ← String.toList_inj, String.toList_ofList]

theorem ofKeyword?_eq_some_of_mem {text : String} {entry : String × Criterion}
    (hmem : entry ∈ keywords) (h : Text.IsCasingOf text entry.1) :
    ofKeyword? text = some entry.2 := by
  rw [isCasingOf_keyword_iff hmem] at h
  unfold ofKeyword?
  rw [h]
  simp only [keywords, List.mem_cons, List.not_mem_nil, or_false] at hmem
  rcases hmem with rfl | rfl | rfl | rfl <;> rfl

theorem exists_mem_keywords_of_ofKeyword? {text : String} {value : Criterion}
    (h : ofKeyword? text = some value) :
    ∃ word, (word, value) ∈ keywords ∧ Text.IsCasingOf text word := by
  -- Being the lower-case form of the text, the word is looked for among the keywords.
  have hfound : ∀ word value, (word, value) ∈ keywords →
      String.ofList (text.toList.map Char.toLower) = word →
        ∃ word, (word, value) ∈ keywords ∧ Text.IsCasingOf text word :=
    fun word _ hmem heq => ⟨word, hmem, (isCasingOf_keyword_iff hmem).mpr heq⟩
  unfold ofKeyword? at h
  simp only at h
  split_ifs at h with hnull hundefined htrue hfalse <;> cases h
  · exact hfound _ _ (by simp [keywords]) hnull
  · exact hfound _ _ (by simp [keywords]) hundefined
  · exact hfound _ _ (by simp [keywords]) htrue
  · exact hfound _ _ (by simp [keywords]) hfalse

theorem ofKeyword?_eq_none_iff {text : String} :
    ofKeyword? text = none ↔ ∀ entry ∈ keywords, ¬ Text.IsCasingOf text entry.1 := by
  constructor
  · intro h entry hmem hcasing
    rw [ofKeyword?_eq_some_of_mem hmem hcasing] at h
    cases h
  · intro h
    rw [Option.eq_none_iff_forall_ne_some]
    intro value hvalue
    obtain ⟨word, hmem, hcasing⟩ := exists_mem_keywords_of_ofKeyword? hvalue
    exact h _ hmem hcasing

/-! ### Numbers -/

theorem means_ofNumber {text : String} {x : Binary64} (h : WritesNumber text x) :
    Means text (ofNumber x) := by
  by_cases hlarge : ∀ n, x.toInt? = some n → largestExactInteger < n.natAbs
  · rw [ofNumber_of_large hlarge]
    exact .double h hlarge
  · push Not at hlarge
    obtain ⟨n, hint, hbound⟩ := hlarge
    have hfits : n.natAbs ≤ 2 ^ 53 - 1 := hbound
    have htoInt : (Int64.ofInt n).toInt = n := Int64.toInt_ofInt_of_le (by omega) (by omega)
    rw [ofNumber_of_toInt? hint hbound]
    refine .int h (by rw [htoInt, hint]) ?_ (by rwa [htoInt])
    -- The integer zero is a zero, which no numeral here writes.
    intro hzero
    have hn : n = 0 := by rw [← htoInt, hzero]; rfl
    rw [hn] at hint
    exact Bool.false_ne_true (h.nonzero.symm.trans (Binary64.isZero_of_toInt? hint))

/-! ### The classification is the meaning -/

theorem classify_of_means {text : String} {value : Criterion} (h : Means text value) :
    classify text = value := by
  cases h with
  | keyword hmem hcasing =>
    unfold classify
    rw [ofKeyword?_eq_some_of_mem hmem hcasing]
  | zero h =>
    subst h
    rfl
  | @int n x hwrites hint hne hbound =>
    rw [classify_of_writesNumber hwrites, ofNumber_of_toInt? hint hbound, Int64.ofInt_toInt]
  | double hwrites hlarge => rw [classify_of_writesNumber hwrites, ofNumber_of_large hlarge]
  | pattern hfirst hlast hkeyword hzero hnumeral =>
    refine classify_of_isPatternText ⟨?_, ofKeyword?_eq_none_iff.mpr hkeyword, hzero, ?_⟩
    · unfold Text.trim
      rw [Text.trimChars_of_noBlankEnds hfirst hlast, String.ofList_toList]
    · rw [Option.eq_none_iff_forall_ne_some]
      intro value hvalue
      obtain ⟨x, hwrites, -⟩ := ofNumeral?_eq_some_iff.mp hvalue
      exact hnumeral x hwrites

theorem means_classify {text : String} (htrim : Text.trim text = text) :
    Means text (classify text) := by
  rcases classify_cases htrim with hkeyword | ⟨hzero, heq⟩ | hnumeral | ⟨hpattern, heq⟩
  · -- The forms are tried in this order, and the first that applies is what is meant.
    obtain ⟨word, hmem, hcasing⟩ := exists_mem_keywords_of_ofKeyword? hkeyword
    exact .keyword hmem hcasing
  · rw [heq]
    exact .zero hzero
  · obtain ⟨x, hwrites, heq⟩ := ofNumeral?_eq_some_iff.mp hnumeral
    rw [heq]
    exact means_ofNumber hwrites
  · -- A text that no other form takes has no blanks at its ends, since it is trimmed.
    obtain ⟨hfirst, hlast⟩ := Text.noBlankEnds_trim text
    rw [htrim] at hfirst hlast
    rw [heq]
    refine .pattern hfirst hlast (ofKeyword?_eq_none_iff.mp hpattern.not_keyword)
      hpattern.not_zero ?_
    intro x hwrites
    -- A numeral would have been read as one.
    have hnumeral := ofNumeral?_eq_some_iff.mpr ⟨x, hwrites, rfl⟩
    rw [hpattern.not_numeral] at hnumeral
    cases hnumeral

/-- **What a raw value asks for** is what its text means. -/
theorem coerce_eq_iff {token : String} {value : Criterion} :
    coerce token = value ↔ Means (textOf token) value := by
  constructor
  · rintro rfl
    exact means_classify (Text.trim_trim _)
  · exact classify_of_means

/-! ### One representation of each number -/

/-- The number that is asked for, if it is one. -/
def number? : Criterion → Option Binary64
  | .int n => some (Binary64.ofInt n.toInt)
  | .double x => some x
  | _ => none

theorem natAbs_le_of_means {text : String} {n : Int64} (h : Means text (.int n)) :
    n.toInt.natAbs ≤ 2 ^ 53 - 1 := by
  -- An integer is zero, or comes from a numeral within the bound.
  cases h with
  | keyword hmem => simp [keywords] at hmem
  | zero => decide
  | int _ _ _ hbound => exact hbound

theorem writesNumber_of_means {text : String} {x : Binary64} (h : Means text (.double x)) :
    WritesNumber text x ∧ ∀ n, x.toInt? = some n → 2 ^ 53 - 1 < n.natAbs := by
  cases h with
  | keyword hmem => simp [keywords] at hmem
  | double hwrites hlarge => exact ⟨hwrites, hlarge⟩

/-- An integer and a double are different numbers. -/
theorem not_sameValue_of_means {text other : String} {n : Int64} {x : Binary64}
    (hint : Means text (.int n)) (hdouble : Means other (.double x)) :
    (Binary64.ofInt n.toInt).sameValue x = false := by
  have hbound := natAbs_le_of_means hint
  obtain ⟨hwrites, hlarge⟩ := writesNumber_of_means hdouble
  -- A double with the value of a short integer would be this integer, which no double is.
  rw [← Bool.not_eq_true]
  intro hsame
  obtain ⟨rank, hrank, hrank'⟩ := Binary64.sameValue_iff.mp hsame
  rw [Binary64.rank?_ofInt_of_lt (by omega), Option.some.injEq] at hrank
  rw [← hrank] at hrank'
  have hlong := hlarge _ (Binary64.toInt?_of_rank? hwrites.finite hrank')
  omega

/-- **No number has two representations.** -/
theorem eq_of_sameValue {text other : String} {value value' : Criterion} {x y : Binary64}
    (h : Means text value) (h' : Means other value') (hx : value.number? = some x)
    (hy : value'.number? = some y) (hsame : x.sameValue y = true) : value = value' := by
  -- Integers and doubles alone have numbers.
  cases value <;> cases hx <;> cases value' <;> cases hy
  case int.refl.int.refl m n =>
    -- Short integers are numbers of the format themselves, so equal numbers are equal integers.
    have hm := natAbs_le_of_means h
    rcases Binary64.sameValue_ofInt hsame with heq | ⟨hlong, -⟩
    · rw [Int64.toInt_inj.mp heq]
    · omega
  case int.refl.double.refl =>
    rw [not_sameValue_of_means h h'] at hsame
    cases hsame
  case double.refl.int.refl =>
    rw [Binary64.sameValue_comm, not_sameValue_of_means h' h] at hsame
    cases hsame
  case double.refl.double.refl =>
    -- Two doubles of one value can only differ in the sign of zero, which neither of them is.
    have hwrites := (writesNumber_of_means h).1
    rw [Binary64.eq_of_sameValue hwrites.finite (writesNumber_of_means h').1.finite hwrites.nonzero
      hsame]

/-- A numeral is not changed before it is read. -/
theorem textOf_numeral {token : String} {x : Binary64} (h : WritesNumber token x) :
    textOf token = token := by
  -- A numeral is made of characters that decoding and trimming leave alone.
  obtain ⟨d, hd, -⟩ := exists_read?_of_readReal? h.read h.finite
  have hplain := trim_decode_plain (all_isUnencoded_of_read? hd)
  rwa [String.ofList_toList] at hplain

/-! ### The canonical form -/

/-- **Raw values have a canonical form.** A raw value asks for what its text means and for nothing
else; equal numbers are asked for in one way, however they are written; numerals are read as they
stand; and a text with all its bytes percent-encoded is trimmed and classified as it is. -/
theorem coerce_canonical :
    (∀ token value, coerce token = value ↔ Means (textOf token) value) ∧
      (∀ token other x y, (coerce token).number? = some x → (coerce other).number? = some y →
        x.sameValue y = true → coerce token = coerce other) ∧
      (∀ token other x, WritesNumber (textOf token) x → WritesNumber (textOf other) x →
        coerce token = coerce other) ∧
      (∀ token x, WritesNumber token x → textOf token = token) ∧
      ∀ text encoded, Text.Percent.Encodes text encoded →
        coerce (String.ofList encoded) = classify (Text.trim text) := by
  refine ⟨fun _ _ => coerce_eq_iff, ?_, ?_, fun _ _ => textOf_numeral, ?_⟩
  · -- Equal numbers have one representation, and so have texts that write the same number.
    intro token other x y hx hy hsame
    exact eq_of_sameValue (coerce_eq_iff.mp rfl) (coerce_eq_iff.mp rfl) hx hy hsame
  · intro token other x h h'
    exact (classify_of_writesNumber h).trans (classify_of_writesNumber h').symm
  · intro text encoded h
    unfold coerce
    rw [Text.Percent.decode_of_encodes h]

end Criterion

end DocumentApi
