import DocumentApi.Proofs.Criteria.Printing
import DocumentApi.Proofs.Document.Field
import DocumentApi.Proofs.Matching.Equality
import DocumentApi.Proofs.Number.RoundedInteger

/-!
# Integers in queries and sorts

Queries and sorts see a stored integer as its number, and so as the rounded integer. The digits of
an integer in a query string are read as its number, too, so that a question for an integer is
answered by the rounded integers:

* `Criteria.ofQuery_token` — a single token asks one question;
* `Criterion.exists_expected?_toString` — the digits of an integer ask for its number, whether they
  are read as an integer or as a double;
* `Matching.answer_toString` — so a document satisfies the question if its integer and the one that
  is asked for are rounded to the same;
* `Matching.comparedAs_id_iff` — integers are compared as they are rounded, which is by value unless
  two different ones are rounded to the same. Up to 2^53 none are, but beyond some are
  (`Matching.not_comparedAs_id`).
-/

namespace DocumentApi

/-! ### Stored integers -/

namespace Bson

/-- The integer that a value is, if it is stored as one. -/
def integer? : Bson → Option Int
  | .int32 value => some value.toInt
  | .int64 value => some value.toInt
  | _ => none

variable {value : Bson} {n : Int}

theorem number?_of_integer? (h : value.integer? = some n) : value.number? = some (.ofInt n) := by
  cases value with
  | int32 _ => cases h; rfl
  | int64 _ => cases h; rfl
  | _ => cases h

end Bson

/-- An integer of 64 bits has at most 64 binary digits. -/
theorem natAbs_toInt_lt (n : Int64) : n.toInt.natAbs < 2 ^ 64 := by
  have hlow := n.le_toInt
  have hhigh := n.toInt_lt
  omega

/-! ### What the digits of an integer ask for -/

namespace Criterion

/-- **A number** is asked for by a question that expects a number with the same value. -/
theorem exists_expected?_ofNumber (x : Binary64) :
    ∃ expected y, (ofNumber x).expected? = some expected ∧ expected.number? = some y ∧
      y.rank? = x.rank? := by
  unfold ofNumber
  -- By whether the number is whole; only a short whole number is asked for as an integer.
  cases hint : x.toInt? with
  | none => exact ⟨.double x, x, rfl, rfl, rfl⟩
  | some n =>
    simp only
    split
    · next hn =>
      -- The integer is short, and its number is what it was read from.
      unfold largestExactInteger at hn
      have hvalue : (Int64.ofInt n).toInt = n := Int64.toInt_ofInt_of_le (by omega) (by omega)
      refine ⟨.int64 (Int64.ofInt n), .ofInt n, rfl, ?_, ?_⟩
      · rw [Bson.number?, hvalue]
      · rw [Binary64.rank?_of_toInt? hint, Binary64.rank?_ofInt_of_lt (by omega)]
    · exact ⟨.double x, x, rfl, rfl, rfl⟩

/-- **The digits of an integer** ask for its number. -/
theorem exists_expected?_toString {n : Int} (h : n.natAbs < 2 ^ 64) :
    ∃ expected y, (Criteria.Token.valueOf (toString n).toList).expected? = some expected ∧
      expected.number? = some y ∧ y.rank? = (Binary64.ofInt n).rank? := by
  by_cases hzero : n = 0
  · -- Zero is not read as a numeral.
    subst hzero
    rw [valueOf_toString (Nat.zero_le _)]
    exact ⟨.int64 0, .ofInt 0, rfl, rfl, rfl⟩
  · -- Neither rounding nor reading makes a zero of another integer.
    have hpos : 0 < n.natAbs := Int.natAbs_pos.mpr hzero
    have hnumber : Numeral.Decimal.toBinary64 ⟨decide (n < 0), n.natAbs, 0⟩ = .ofInt n :=
      Binary64.ofDecimal_whole _ hpos
    have hfinite : (Binary64.ofInt n).isFinite = true := by
      rw [Binary64.ofInt_eq h]
      rfl
    have hrounded : Binary64.roundedNat n.natAbs ≠ 0 :=
      (Nat.lt_of_lt_of_le (Nat.two_pow_pos _) (Binary64.two_pow_log2_le_roundedNat hpos.ne')).ne'
    have hnotZero : (Binary64.ofInt n).isZero = false := by
      rw [Binary64.ofInt_eq h, Binary64.isZero_finite, beq_eq_false_iff_ne]
      exact Nat.mul_ne_zero hrounded Binary64.unitsPerOne_pos.ne'
    rw [valueOf_numeral (Numeral.Decimal.read?_toString n) (by rwa [hnumber]) (by rwa [hnumber]),
      hnumber]
    exact exists_expected?_ofNumber _

end Criterion

/-! ### A query of one token -/

namespace Criteria

theorem pathOf_of_isName {name : String} (h : IsName name) : Token.pathOf name.toList = [name] := by
  have hpath := pathOf_intercalate (List.cons_ne_nil name [])
    fun other hother => (List.mem_singleton.mp hother) ▸ h
  rwa [String.intercalate_singleton] at hpath

/-- **A single token** asks one question. -/
theorem ofQuery_token {name text : String} (hname : IsName name) (htext : ',' ∉ text.toList) :
    ofQuery (name ++ ":" ++ text) = [(name, Token.valueOf text.toList)] := by
  -- The text is one piece, which is cut at the colon behind the name.
  have hchars : (name ++ ":" ++ text).toList = name.toList ++ ':' :: text.toList := by
    rw [String.toList_append, String.toList_append, List.append_assoc]
    rfl
  have hcomma : ',' ∉ name.toList ++ ':' :: text.toList := by
    rw [List.mem_append, List.mem_cons, not_or, not_or]
    exact ⟨hname.no_comma, by decide, htext⟩
  have hpieces : Text.pieces ',' (name.toList ++ ':' :: text.toList)
      = [name.toList ++ ':' :: text.toList] := by
    rw [Text.pieces_eq_splitOn]
    exact List.splitOn_eq_singleton hcomma
  have htoken : Token.ofChars? (name.toList ++ ':' :: text.toList)
      = some ⟨[name], Token.valueOf text.toList⟩ := by
    unfold Token.ofChars?
    rw [Text.cut?_append hname.no_colon, Option.bind_some]
    simp only [pathOf_of_isName hname]
    rfl
  unfold ofQuery tokens
  rw [hchars, hpieces, List.filterMap_cons, htoken]
  rfl

end Criteria

/-! ### Questions for integers -/

namespace Matching

/-- **A question for a number** about a field that holds a number is answered by whether the two
have the same value. -/
theorem answer_of_expected? (engine : PatternEngine) {document : Document} {field : String}
    {criterion : Criterion} {value expected : Bson} {x y : Binary64}
    (hfield : segments field = [field]) (hvalue : Fields.get? document field = some value)
    (hx : value.number? = some x) (hexpected : criterion.expected? = some expected)
    (hy : expected.number? = some y) :
    answer engine [(field, criterion)] document = .ok (x.sameValue y) := by
  -- The value is a number, so that it is all there is to look at.
  have hscalar : value.isScalar = true := by
    cases value <;> first | rfl | cases hx
  have hleaves : Criteria.leaves [(field, criterion)] = [(field, criterion)] := by
    cases criterion with
    | nested _ => cases hexpected
    | _ => rfl
  have hcandidates : document.candidates field = [value] :=
    Document.candidates_of_isScalar hfield ((Document.mem_resolve_iff hfield).mpr hvalue) hscalar
  have hequal : isEqualTo expected value = x.sameValue y := by
    unfold isEqualTo
    rw [Bson.comparable_of_number? hx, Bson.comparable_of_number? hy]
    rfl
  unfold answer evaluate Criteria.Interpretation.ofLeaves
  rw [hleaves, Criteria.Interpretation.each, meaningAt_of_expected? hexpected, hcandidates,
    List.any_cons, List.any_nil, Bool.or_false, hequal]
  -- The one answer is the answer.
  exact congrArg Except.ok (Bool.and_true _)

/-- **A question for the digits of an integer** is answered by whether the integer of the document
and the one that is asked for are rounded to the same. -/
theorem answer_toString (engine : PatternEngine) {document : Document} {field : String}
    {value : Bson} (m asked : Int64) (hfield : Criteria.IsName field)
    (hvalue : Fields.get? document field = some value) (hm : value.integer? = some m.toInt) :
    answer engine (Criteria.ofQuery (field ++ ":" ++ toString asked.toInt)) document
      = .ok (decide (Binary64.roundedInt m.toInt = Binary64.roundedInt asked.toInt)) := by
  -- A name without dots is a path of one segment, and digits hold no comma.
  have hsegments : segments field = [field] := segments_eq_singleton hfield.no_dot
  have hdigits : ',' ∉ (toString asked.toInt).toList := by
    intro hmem
    exact absurd (Numeral.Decimal.mem_numeralChars_of_read? (Numeral.Decimal.read?_toString _) _ hmem)
      (by decide)
  obtain ⟨expected, y, hexpected, hy, hrank⟩ :=
    Criterion.exists_expected?_toString (natAbs_toInt_lt asked)
  rw [Criteria.ofQuery_token hfield hdigits,
    answer_of_expected? engine hsegments hvalue (Bson.number?_of_integer? hm) hexpected hy]
  refine congrArg Except.ok ?_
  rw [Bool.eq_iff_iff, decide_eq_true_iff,
    ← Binary64.sameValue_ofInt_iff (natAbs_toInt_lt m) (natAbs_toInt_lt asked)]
  -- It is the value of the expected number that counts.
  rw [Binary64.sameValue_iff, Binary64.sameValue_iff, hrank]

/-- Whether two integers are compared by what they look like: by the equality of queries, by the
order of sorts, and by a query for the digits of the second one. -/
structure ComparedAs (view : Int → Int) (m n : Int) : Prop where
  same_iff : ∀ {a b : Bson}, a.integer? = some m → b.integer? = some n →
    (a.comparable.same b.comparable = true ↔ view m = view n)
  compare_eq : ∀ {a b : Bson}, a.integer? = some m → b.integer? = some n →
    Comparable.compare a.comparable b.comparable = Ord.compare (view m) (view n)
  answer_eq : ∀ (engine : PatternEngine) {document : Document} {field : String} {value : Bson},
    Criteria.IsName field → Fields.get? document field = some value → value.integer? = some m →
      answer engine (Criteria.ofQuery (field ++ ":" ++ toString n)) document
        = .ok (decide (view m = view n))

/-- It is the order that counts of what integers look like. -/
theorem ComparedAs.congr {view other : Int → Int} {m n : Int} (h : ComparedAs view m n)
    (horder : Ord.compare (other m) (other n) = Ord.compare (view m) (view n)) :
    ComparedAs other m n := by
  -- Equal images mean that neither image comes first.
  have heq : other m = other n ↔ view m = view n := by
    rw [← Int.compare_eq_eq, horder, Int.compare_eq_eq]
  refine ⟨fun ha hb => (h.same_iff ha hb).trans heq.symm,
    fun ha hb => (h.compare_eq ha hb).trans horder.symm, ?_⟩
  intro engine document field value hfield hvalue hm
  rw [h.answer_eq engine hfield hvalue hm, decide_eq_decide.mpr heq]

/-- **Integers are compared as they are rounded.** -/
theorem comparedAs_roundedInt (m n : Int64) :
    ComparedAs Binary64.roundedInt m.toInt n.toInt where
  same_iff ha hb := by
    -- Both are seen as numbers, whose values are those of the rounded integers.
    rw [Bson.comparable_of_number? (Bson.number?_of_integer? ha),
      Bson.comparable_of_number? (Bson.number?_of_integer? hb)]
    exact Binary64.sameValue_ofInt_iff (natAbs_toInt_lt m) (natAbs_toInt_lt n)
  compare_eq ha hb := by
    rw [Bson.comparable_of_number? (Bson.number?_of_integer? ha),
      Bson.comparable_of_number? (Bson.number?_of_integer? hb)]
    unfold Comparable.compare
    rw [Comparable.valueOrder?, Binary64.compare?_ofInt (natAbs_toInt_lt m) (natAbs_toInt_lt n)]
    rfl
  answer_eq engine _ _ _ hfield hvalue hm := answer_toString engine m n hfield hvalue hm

/-- **When integers are compared by value.** Two integers are compared as they are rounded, by
queries as well as by sorts, which never turns their order around. So they are compared by value
unless they are different and rounded to the same, and always if they are at most 2^53 in
magnitude. -/
theorem comparedAs_id_iff (m n : Int64) :
    ComparedAs Binary64.roundedInt m.toInt n.toInt ∧
      (m.toInt ≤ n.toInt → Binary64.roundedInt m.toInt ≤ Binary64.roundedInt n.toInt) ∧
      (ComparedAs id m.toInt n.toInt ↔
        (Binary64.roundedInt m.toInt = Binary64.roundedInt n.toInt → m.toInt = n.toInt)) ∧
      (m.toInt.natAbs ≤ 2 ^ 53 → n.toInt.natAbs ≤ 2 ^ 53 → ComparedAs id m.toInt n.toInt) := by
  have hrounded := comparedAs_roundedInt m n
  -- Unless rounding makes different integers the same, it keeps their order.
  have hvalue : (Binary64.roundedInt m.toInt = Binary64.roundedInt n.toInt → m.toInt = n.toInt) →
      ComparedAs id m.toInt n.toInt :=
    fun h => hrounded.congr (Binary64.compare_roundedInt h).symm
  refine ⟨hrounded, Binary64.roundedInt_mono, ⟨fun h heq => ?_, hvalue⟩, ?_⟩
  · -- To the equality of queries the two are the same.
    have hm : (Bson.int64 m).integer? = some m.toInt := rfl
    have hn : (Bson.int64 n).integer? = some n.toInt := rfl
    exact (h.same_iff hm hn).mp ((hrounded.same_iff hm hn).mpr heq)
  · -- Integers up to 2^53 are not rounded, so that nothing is made the same.
    intro hm hn
    refine hvalue fun heq => ?_
    rwa [Binary64.roundedInt_of_le hm, Binary64.roundedInt_of_le hn] at heq

/-- **Not all integers are compared by value.** To a query, 2^53 + 1 is equal to 2^53. -/
theorem not_comparedAs_id : ¬ ∀ m n : Int64, ComparedAs id m.toInt n.toInt := by
  intro h
  have hsame := (h 9007199254740993 9007199254740992).same_iff (a := .int64 9007199254740993)
    (b := .int64 9007199254740992) rfl rfl
  revert hsame
  decide +kernel

end Matching

end DocumentApi
