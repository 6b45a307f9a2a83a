import DocumentApi.Text.Blank
import DocumentApi.Text.Hex
import DocumentApi.Text.Split

/-!
# Tables of characters

A set of characters as ascending ranges of code points. The written form of a table is a list of
code points and of ranges `first-last`, in hexadecimal, with blanks between them.
-/

namespace DocumentApi

/-- A set of characters as ascending, disjoint ranges of code points. -/
structure CharTable where
  ranges : Array (Nat × Nat)

namespace CharTable

/-- A number in hexadecimal. -/
def number (digits : List Char) : Nat :=
  (Text.Hex.value? digits).getD 0

/-- The range that a word of the written form stands for. -/
def rangeOf (word : List Char) : Nat × Nat :=
  match Text.cut? '-' word with
  | some (first, last) => (number first, number last)
  | none => (number word, number word)

/-- The table with the given written form. -/
def parse (text : String) : CharTable :=
  ⟨((Text.wordsFrom [] text.toList).map rangeOf).toArray⟩

/-- Whether a range holds a code point, looking only at ranges from place `low` to before place
`high`; halving the places `fuel` times finds it. -/
def search (ranges : Array (Nat × Nat)) (n low high : Nat) : Nat → Bool
  | 0 => false
  | fuel + 1 =>
    if high ≤ low then false
    else
      let middle := (low + high) / 2
      match ranges[middle]? with
      | none => false
      | some (first, last) =>
        if n < first then search ranges n low middle fuel
        else if last < n then search ranges n (middle + 1) high fuel
        else true

/-- Whether the table holds a character. -/
def contains (table : CharTable) (c : Char) : Bool :=
  search table.ranges c.toNat 0 table.ranges.size (table.ranges.size.log2 + 2)

/-- The number of ranges. -/
def size (table : CharTable) : Nat :=
  table.ranges.size

end CharTable

end DocumentApi
