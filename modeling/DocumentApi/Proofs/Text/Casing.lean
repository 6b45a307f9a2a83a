import Mathlib.Data.List.Forall2
import Mathlib.Data.Nat.Notation
import Mathlib.Tactic.SplitIfs

/-!
# Words in any letter case

Keywords and media types may be written in any letter case, which is to say that each of their
letters may be the lower-case or the upper-case one.

* `Text.IsCasingOf` — the texts that are a word in some letter case;
* `Text.isCasingOf_iff` — for a word without upper-case letters, these are the texts whose
  lower-case form is the word. Only the letters of ASCII have two cases here.
-/

namespace DocumentApi.Text

/-! ### Letters -/

theorem toNat_toLower (c : Char) :
    c.toLower.toNat = if 65 ≤ c.toNat ∧ c.toNat ≤ 90 then c.toNat + 32 else c.toNat := by
  have hdistance : ('a'.val - 'A'.val).toNat = 32 := by decide
  unfold Char.toLower
  by_cases hupper : 65 ≤ c.toNat ∧ c.toNat ≤ 90
  · -- An upper-case letter is moved by the distance of the two cases, without leaving the code
    -- points.
    rw [dif_pos (by simpa [UInt32.le_iff_toNat_le] using hupper), if_pos hupper]
    change (c.val + _).toNat = _
    rw [UInt32.toNat_add, hdistance]
    change (c.toNat + 32) % 2 ^ 32 = _
    omega
  · rw [dif_neg (by simpa [UInt32.le_iff_toNat_le] using hupper), if_neg hupper]

theorem toNat_toUpper (c : Char) :
    c.toUpper.toNat = if 97 ≤ c.toNat ∧ c.toNat ≤ 122 then c.toNat - 32 else c.toNat := by
  -- The distance is negative, and taken modulo the size of a code point.
  have hdistance : ('A'.val - 'a'.val).toNat = 2 ^ 32 - 32 := by decide
  unfold Char.toUpper
  by_cases hlower : 97 ≤ c.toNat ∧ c.toNat ≤ 122
  · rw [dif_pos (by simpa [UInt32.le_iff_toNat_le] using hlower), if_pos hlower]
    change (c.val + _).toNat = _
    rw [UInt32.toNat_add, hdistance]
    change (c.toNat + (2 ^ 32 - 32)) % 2 ^ 32 = _
    omega
  · rw [dif_neg (by simpa [UInt32.le_iff_toNat_le] using hlower), if_neg hlower]

/-- The characters whose lower-case form is a given one are this one and its upper-case form. -/
theorem toLower_eq_iff {c letter : Char} (h : letter.isUpper = false) :
    c.toLower = letter ↔ c = letter ∨ c = letter.toUpper := by
  -- The letter is none that has a lower-case form of its own.
  have hletter : ¬ (65 ≤ letter.toNat ∧ letter.toNat ≤ 90) := by
    intro hrange
    have hupper : letter.isUpper = true := decide_eq_true hrange
    rw [h] at hupper
    cases hupper
  rw [← Char.toNat_inj, ← Char.toNat_inj (c := c), ← Char.toNat_inj (c := c), toNat_toLower,
    toNat_toUpper]
  -- The characters are compared by their code points, in each of the ranges.
  split_ifs <;> omega

/-! ### Words -/

/-- Whether a text is a word of lower-case letters, each of which may be the upper-case one. -/
def IsCasingOf (text word : String) : Prop :=
  List.Forall₂ (fun c letter => c = letter ∨ c = letter.toUpper) text.toList word.toList

/-- **A word in some letter case** is a text whose lower-case form is the word. -/
theorem isCasingOf_iff {text word : String} (h : word.toList.any Char.isUpper = false) :
    IsCasingOf text word ↔ text.toList.map Char.toLower = word.toList := by
  unfold IsCasingOf
  generalize text.toList = cs
  generalize word.toList = letters at h ⊢
  induction cs generalizing letters with
  | nil => cases letters <;> simp
  | cons c rest ih =>
    -- Letter by letter; both texts have to end together.
    cases letters with
    | nil => simp
    | cons letter letters =>
      rw [List.any_cons, Bool.or_eq_false_iff] at h
      rw [List.forall₂_cons, List.map_cons, List.cons.injEq, toLower_eq_iff h.1, ih _ h.2]

end DocumentApi.Text
