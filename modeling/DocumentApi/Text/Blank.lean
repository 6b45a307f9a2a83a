/-!
# Blank characters

The white space that is trimmed from names and values and that separates the names of a sort
specification: the characters with the Unicode property `White_Space`. The zero width space U+200B
and the byte order mark U+FEFF do not have it.

* `trim` removes the blanks at both ends (`trimChars_of_noBlankEnds`);
* `words` gives the maximal runs of other characters.
-/

namespace DocumentApi.Text

/-- Whether `c` has the Unicode property `White_Space`. -/
def isBlank (c : Char) : Bool :=
  let n := c.toNat
  (0x9 ≤ n && n ≤ 0xD) || n == 0x20 || n == 0x85 || n == 0xA0 || n == 0x1680 ||
    (0x2000 ≤ n && n ≤ 0x200A) || n == 0x2028 || n == 0x2029 || n == 0x202F || n == 0x205F ||
    n == 0x3000

/-- The characters from the first to the last one that is not blank. -/
def trimChars (cs : List Char) : List Char :=
  ((cs.dropWhile isBlank).reverse.dropWhile isBlank).reverse

/-- The text from its first to its last character that is not blank. -/
def trim (text : String) : String :=
  String.ofList (trimChars text.toList)

/-- The maximal runs of characters that are not blank, where `word` is the part of a run that has
been read already, last character first. -/
def wordsFrom (word : List Char) : List Char → List (List Char)
  | [] => if word.isEmpty then [] else [word.reverse]
  | c :: rest =>
    if isBlank c then
      if word.isEmpty then wordsFrom [] rest else word.reverse :: wordsFrom [] rest
    else wordsFrom (c :: word) rest

/-- The maximal runs of characters that are not blank. -/
def words (text : String) : List String :=
  (wordsFrom [] text.toList).map String.ofList

/-- A text that is empty, or starts and ends with other characters, has nothing to trim. -/
theorem trimChars_of_noBlankEnds {cs : List Char} (hfirst : ∀ c ∈ cs.head?, isBlank c = false)
    (hlast : ∀ c ∈ cs.getLast?, isBlank c = false) : trimChars cs = cs := by
  have drop : ∀ {ds : List Char}, (∀ c ∈ ds.head?, isBlank c = false) →
      ds.dropWhile isBlank = ds := by
    intro ds h
    cases ds with
    | nil => rfl
    | cons d rest => simp [List.dropWhile, h d (by simp)]
  have hr : ∀ c ∈ cs.reverse.head?, isBlank c = false := by simpa using hlast
  simp [trimChars, drop hfirst, drop hr]

end DocumentApi.Text
