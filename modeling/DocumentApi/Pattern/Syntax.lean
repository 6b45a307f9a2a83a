/-!
# Pattern syntax

The syntax trees of patterns. A pattern is made of characters, classes of characters and conditions
on places, put together by concatenation, alternation, repetition and grouping; flags change how the
parts after them are read.

* `Syntax.depth` counts how deeply a pattern is nested; patterns nested too deeply are refused.
-/

namespace DocumentApi.Pattern

/-- What can be switched on and off in a pattern. -/
inductive Flag where
  /-- Letters match without regard to case. -/
  | ignoreCase
  /-- Line ends count as ends of the text. -/
  | multiLine
  /-- The dot matches line ends. -/
  | dotAll
  /-- Repetitions are lazy unless they say otherwise. -/
  | swapGreed
  /-- Classes and boundaries are those of Unicode. -/
  | unicode
  /-- A carriage return counts as a line end. -/
  | crlf
  /-- Blanks and comments in the pattern do not count. -/
  | ignoreBlanks
  deriving DecidableEq

/-- A list of flags, each with whether it is switched on. -/
abbrev FlagChanges := List (Flag × Bool)

/-- The state of a flag after changes, where they say something about it. -/
def FlagChanges.state? (changes : FlagChanges) (flag : Flag) : Option Bool :=
  (changes.find? (·.1 == flag)).map (·.2)

/-- Conditions on a place in the text. -/
inductive Assertion where
  | lineStart
  | lineEnd
  | textStart
  | textEnd
  | wordBoundary
  | notWordBoundary
  | wordStart
  | wordEnd
  | wordStartHalf
  | wordEndHalf
  deriving DecidableEq

/-- Classes that a single letter stands for. -/
inductive LetterClass where
  | digit
  | space
  | word
  deriving DecidableEq

/-- Classes of ASCII characters with a name between colons. -/
inductive AsciiClass where
  | alnum
  | alpha
  | ascii
  | blank
  | cntrl
  | digit
  | graph
  | lower
  | print
  | punct
  | space
  | upper
  | word
  | xdigit
  deriving DecidableEq

/-- How a class of Unicode is named: by one name, or by a property and its value. -/
inductive PropertyName where
  | single (name : String)
  | ofValue (property value : String)

/-- A character as it is written; `isByte` says that it is written as the number of a byte. -/
structure Literal where
  char : Char
  isByte : Bool

/-- How two classes are combined. -/
inductive SetOperation where
  | intersection
  | difference
  | symmetricDifference
  deriving DecidableEq

/-- A class of characters as it is written. -/
inductive ClassSyntax where
  | literal (literal : Literal)
  | range (first last : Literal)
  | ascii (kind : AsciiClass) (negated : Bool)
  | letter (kind : LetterClass) (negated : Bool)
  | property (name : PropertyName) (negated : Bool)
  | bracketed (negated : Bool) (inner : ClassSyntax)
  | union (items : List ClassSyntax)
  | combine (operation : SetOperation) (left right : ClassSyntax)

namespace ClassSyntax

/-- The union of items; a single one stands for itself. -/
def ofItems : List ClassSyntax → ClassSyntax
  | [item] => item
  | items => .union items

mutual

/-- How deeply brackets, unions and operations are nested. -/
def depth : ClassSyntax → Nat
  | .bracketed _ inner => depth inner + 1
  | .union [] => 0
  | .union items => depthOfAll items + 1
  | .combine _ left right => max (depth left) (depth right) + 1
  | _ => 0

/-- The greatest depth of some classes. -/
def depthOfAll : List ClassSyntax → Nat
  | [] => 0
  | item :: rest => max (depth item) (depthOfAll rest)

end

end ClassSyntax

/-- A pattern as it is written. -/
inductive Syntax where
  | empty
  | flags (changes : FlagChanges)
  | literal (literal : Literal)
  | dot
  | assertion (kind : Assertion)
  | letterClass (kind : LetterClass) (negated : Bool)
  | property (name : PropertyName) (negated : Bool)
  | bracketed (inner : ClassSyntax) (negated : Bool)
  /-- From `least` to `most` times the same, without a limit if there is no `most`. -/
  | repetition (inner : Syntax) (least : Nat) (most : Option Nat)
  | group (captures : Bool) (changes : FlagChanges) (inner : Syntax)
  | alternation (branches : List Syntax)
  | concatenation (parts : List Syntax)

namespace Syntax

/-- The concatenation of parts; a single one stands for itself and none for the empty pattern. -/
def ofParts : List Syntax → Syntax
  | [] => .empty
  | [part] => part
  | parts => .concatenation parts

/-- The alternation of branches; a single one stands for itself. -/
def ofBranches : List Syntax → Syntax
  | [branch] => branch
  | branches => .alternation branches

/-- Whether the pattern is something that can be repeated: not empty, and no change of flags. -/
def isRepeatable : Syntax → Bool
  | .empty | .flags _ => false
  | _ => true

mutual

/-- How deeply a pattern is nested: groups, repetitions, classes in brackets, alternations and
concatenations each count once. -/
def depth : Syntax → Nat
  | .bracketed inner _ => inner.depth + 1
  | .repetition inner _ _ => depth inner + 1
  | .group _ _ inner => depth inner + 1
  | .alternation branches => depthOfAll branches + 1
  | .concatenation parts => depthOfAll parts + 1
  | _ => 0

/-- The greatest depth of some patterns. -/
def depthOfAll : List Syntax → Nat
  | [] => 0
  | part :: rest => max (depth part) (depthOfAll rest)

end

end Syntax

end DocumentApi.Pattern
