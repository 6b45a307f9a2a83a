import DocumentApi.Pattern.Syntax
import DocumentApi.Unicode.Age
import DocumentApi.Unicode.BinaryProperty
import DocumentApi.Unicode.CaseFolding
import DocumentApi.Unicode.GeneralCategory
import DocumentApi.Unicode.Script
import DocumentApi.Unicode.ScriptExtension

/-!
# Sets of characters

The sets that classes of a pattern stand for, built from ranges and tables by the operations of
sets. `CharSet.folded` adds to a set every character that is the same as one of its own without
regard to case.

* `CharSet.ofProperty?` finds the set that a class of Unicode names. Names are compared without
  regard to case, blanks, dashes, underscores and a leading `is`.
-/

namespace DocumentApi.Pattern

/-- A set of characters. -/
inductive CharSet where
  | chars (list : List Char)
  | range (first last : Char)
  | ofTable (table : CharTable)
  | folded (inner : CharSet)
  /-- The set with both cases of its ASCII letters. -/
  | asciiFolded (inner : CharSet)
  | complement (inner : CharSet)
  | union (sets : List CharSet)
  | intersection (left right : CharSet)
  | difference (left right : CharSet)
  | symmetricDifference (left right : CharSet)

namespace CharSet

/-- The characters that differ from an ASCII letter at most in case. -/
def asciiCases (c : Char) : List Char :=
  [c.toLower, c.toUpper]

mutual

/-- Whether a set holds a character. -/
def contains : CharSet → Char → Bool
  | .chars list, c => list.contains c
  | .range first last, c => first ≤ c && c ≤ last
  | .ofTable table, c => table.contains c
  | .folded inner, c => (Unicode.CaseFolding.orbit c).any (contains inner)
  | .asciiFolded inner, c => (asciiCases c).any (contains inner)
  | .complement inner, c => !contains inner c
  | .union sets, c => anyContains sets c
  | .intersection left right, c => contains left c && contains right c
  | .difference left right, c => contains left c && !contains right c
  | .symmetricDifference left right, c => contains left c != contains right c

/-- Whether one of some sets holds a character. -/
def anyContains : List CharSet → Char → Bool
  | [], _ => false
  | set :: rest, c => contains set c || anyContains rest c

end

mutual

/-- About how many ranges the set is made of. -/
def rangeCount : CharSet → Nat
  | .chars list => list.length
  | .range .. => 1
  | .ofTable table => table.size
  | .folded inner => rangeCount inner
  | .asciiFolded inner => 2 * rangeCount inner
  | .complement inner => rangeCount inner + 1
  | .union sets => rangeCountOfAll sets
  | .intersection left right => rangeCount left + rangeCount right
  | .difference left right => rangeCount left + rangeCount right
  | .symmetricDifference left right => rangeCount left + rangeCount right

/-- About how many ranges some sets are made of. -/
def rangeCountOfAll : List CharSet → Nat
  | [] => 0
  | set :: rest => rangeCount set + rangeCountOfAll rest

end

mutual

/-- Whether the set is plainly one of ASCII characters. -/
def isAscii : CharSet → Bool
  | .chars list => list.all (·.toNat < 128)
  | .range _ last => last.toNat < 128
  | .ofTable _ => false
  | .folded _ => false
  | .asciiFolded inner => isAscii inner
  | .complement _ => false
  | .union sets => areAscii sets
  | .intersection left right => isAscii left || isAscii right
  | .difference left _ => isAscii left
  | .symmetricDifference left right => isAscii left && isAscii right

/-- Whether all of some sets are plainly sets of ASCII characters. -/
def areAscii : List CharSet → Bool
  | [] => true
  | set :: rest => isAscii set && areAscii rest

end

/-- All characters. -/
def all : CharSet := .complement (.chars [])

/-- The union of tables. -/
def ofTables (tables : List CharTable) : CharSet :=
  .union (tables.map .ofTable)

/-! ### Classes with a letter or an ASCII name -/

/-- The digits, blanks or word characters of Unicode. -/
def ofLetter : LetterClass → CharSet
  | .digit => .ofTable Unicode.GeneralCategory.decimalNumber
  | .space => .ofTable Unicode.BinaryProperty.whiteSpace
  | .word => ofTables [Unicode.BinaryProperty.alphabetic, Unicode.GeneralCategory.nonspacingMark,
      Unicode.GeneralCategory.spacingMark, Unicode.GeneralCategory.enclosingMark,
      Unicode.GeneralCategory.decimalNumber, Unicode.GeneralCategory.connectorPunctuation,
      Unicode.BinaryProperty.joinControl]

/-- The ASCII characters of a named class. -/
def ofAscii : AsciiClass → CharSet
  | .alnum => .union [.range '0' '9', .range 'A' 'Z', .range 'a' 'z']
  | .alpha => .union [.range 'A' 'Z', .range 'a' 'z']
  | .ascii => .range '\x00' '\x7f'
  | .blank => .chars ['\t', ' ']
  | .cntrl => .union [.range '\x00' '\x1f', .chars ['\x7f']]
  | .digit => .range '0' '9'
  | .graph => .range '!' '~'
  | .lower => .range 'a' 'z'
  | .print => .range ' ' '~'
  | .punct => .union [.range '!' '/', .range ':' '@', .range '[' '\x60', .range '{' '~']
  | .space => .chars ['\t', '\n', '\x0b', '\x0c', '\r', ' ']
  | .upper => .range 'A' 'Z'
  | .word => .union [.range '0' '9', .range 'A' 'Z', .chars ['_'], .range 'a' 'z']
  | .xdigit => .union [.range '0' '9', .range 'A' 'F', .range 'a' 'f']

/-- The ASCII digits, blanks or word characters. -/
def ofAsciiLetter : LetterClass → CharSet
  | .digit => ofAscii .digit
  | .space => ofAscii .space
  | .word => ofAscii .word

/-! ### Classes of Unicode -/

/-- A name without what does not count in it. A name that would be left with the letter C alone
keeps its prefix, which is then no prefix. -/
def looseName (name : String) : String :=
  let strip (cs : List Char) : List Char :=
    (cs.filter fun c => c.toNat < 128 && c ≠ ' ' && c ≠ '_' && c ≠ '-').map Char.toLower
  match name.toList with
  | first :: second :: rest =>
    if first.toLower = 'i' ∧ second.toLower = 's' then
      let kept := strip rest
      if kept = ['c'] then "isc" else String.ofList kept
    else String.ofList (strip (first :: second :: rest))
  | short => String.ofList (strip short)

/-- The set of a general category, of all characters, or of all that have a category. -/
def ofCategory? (name : String) : Option CharSet :=
  match name with
  | "any" => some all
  | "assigned" => some (.complement (.ofTable Unicode.GeneralCategory.unassigned))
  | "ascii" => some (ofAscii .ascii)
  | _ => (Unicode.GeneralCategory.byName? name).map ofTables

/-- The names of categories that are also names of properties and are taken for categories. -/
def categoryFirst : List String := ["cf", "sc", "lc"]

/-- The set of a binary property, a general category or a script. -/
def ofSingle? (name : String) : Option CharSet :=
  let property :=
    if categoryFirst.contains name then none else Unicode.BinaryProperty.byName? name
  match property with
  | some table => some (.ofTable table)
  | none =>
    match ofCategory? name with
    | some set => some set
    | none => (Unicode.Script.byName? name).map .ofTable

/-- The set of the characters whose property has a value. -/
def ofValue? (property value : String) : Option CharSet :=
  match property with
  | "gc" | "generalcategory" => ofCategory? value
  | "sc" | "script" => (Unicode.Script.byName? value).map .ofTable
  | "scx" | "scriptextensions" => (Unicode.ScriptExtension.byName? value).map .ofTable
  | "age" => (Unicode.Age.upTo? value).map ofTables
  | _ => none

/-- The set that a class of Unicode names. -/
def ofProperty? : PropertyName → Option CharSet
  | .single name => ofSingle? (looseName name)
  | .ofValue property value => ofValue? (looseName property) (looseName value)

end CharSet

end DocumentApi.Pattern
