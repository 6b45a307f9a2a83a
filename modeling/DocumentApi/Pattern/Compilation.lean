import DocumentApi.Pattern.Program
import DocumentApi.Pattern.Reader

/-!
# Compiling patterns

Compiling decides what flags leave open. A change of flags holds from where it stands to the end of
the group around it, whatever branches come in between. Letters match without regard to case unless
a pattern says otherwise. Where the classes of Unicode are switched off, only ASCII characters can
be in a class, and nothing stands for a single byte.

* `Pattern.program` gives the program of a pattern, `Pattern.engine` is the engine of stores.
-/

namespace DocumentApi.Pattern

/-- What is switched on. -/
structure Flags where
  ignoreCase : Bool
  multiLine : Bool
  dotAll : Bool
  unicode : Bool
  crlf : Bool

namespace Flags

/-- What is switched on at the start of a pattern. -/
def initial : Flags := ⟨true, false, false, true, false⟩

/-- Switches one flag. -/
def set (flags : Flags) (change : Flag × Bool) : Flags :=
  match change with
  | (.ignoreCase, state) => { flags with ignoreCase := state }
  | (.multiLine, state) => { flags with multiLine := state }
  | (.dotAll, state) => { flags with dotAll := state }
  | (.unicode, state) => { flags with unicode := state }
  | (.crlf, state) => { flags with crlf := state }
  | (.swapGreed, _) | (.ignoreBlanks, _) => flags

/-- Switches flags from left to right. -/
def apply (flags : Flags) (changes : FlagChanges) : Flags :=
  changes.foldl set flags

/-- A set with all cases of its letters, if case does not count. -/
def fold (flags : Flags) (chars : CharSet) : CharSet :=
  if flags.ignoreCase then if flags.unicode then .folded chars else .asciiFolded chars
  else chars

/-- A set with all cases of its letters and then, if it is negated, its complement. Without the
classes of Unicode there is no complement. -/
def foldAndNegate (flags : Flags) (negated : Bool) (chars : CharSet) : Option CharSet :=
  if negated then
    if flags.unicode then some (.complement (flags.fold chars)) else none
  else some (flags.fold chars)

/-- The set of a character as it is written. -/
def literalSet (flags : Flags) (literal : Literal) : Option CharSet :=
  let c := literal.char
  if flags.unicode then
    some (.chars (if flags.ignoreCase then Unicode.CaseFolding.orbit c else [c]))
  else if literal.isByte && 128 ≤ c.toNat then none
  else if flags.ignoreCase && c.isAlpha then some (.chars (CharSet.asciiCases c))
  else some (.chars [c])

/-- A character inside a class; without the classes of Unicode it is one of ASCII. -/
def classChar (flags : Flags) (literal : Literal) : Option Char :=
  if flags.unicode || literal.char.toNat < 128 then some literal.char else none

/-- The set of a class with a letter. -/
def letterSet (flags : Flags) (kind : LetterClass) (negated : Bool) : Option CharSet :=
  if flags.unicode then
    some (if negated then .complement (.ofLetter kind) else .ofLetter kind)
  else if negated then none
  else some (.ofAsciiLetter kind)

/-- The set of a class of Unicode. -/
def propertySet (flags : Flags) (name : PropertyName) (negated : Bool) : Option CharSet :=
  if flags.unicode then (CharSet.ofProperty? name).bind (flags.foldAndNegate negated) else none

/-- The set of two sets that are combined by an operation. -/
def combine (operation : SetOperation) (left right : CharSet) : CharSet :=
  match operation with
  | .intersection => .intersection left right
  | .difference => .difference left right
  | .symmetricDifference => .symmetricDifference left right

mutual

/-- The set of a class inside brackets. -/
def classSet (flags : Flags) : ClassSyntax → Option CharSet
  | .literal literal => (flags.classChar literal).map fun c => .chars [c]
  | .range first last => do
    some (.range (← flags.classChar first) (← flags.classChar last))
  | .ascii kind negated => flags.foldAndNegate negated (.ofAscii kind)
  | .letter kind negated => flags.letterSet kind negated
  | .property name negated => flags.propertySet name negated
  | .bracketed negated inner => (classSet flags inner).bind (flags.foldAndNegate negated)
  | .union items => (classSets flags items).map .union
  | .combine operation left right => do
    let left ← classSet flags left
    let right ← classSet flags right
    some (combine operation (flags.fold left) (flags.fold right))

/-- The sets of classes inside brackets. -/
def classSets (flags : Flags) : List ClassSyntax → Option (List CharSet)
  | [] => some []
  | item :: rest => do
    let set ← classSet flags item
    let sets ← classSets flags rest
    some (set :: sets)

end

/-- The set of the dot: every character, or every one but line ends. -/
def dotSet (flags : Flags) : Option CharSet :=
  if !flags.unicode then none
  else if flags.dotAll then some .all
  else if flags.crlf then some (.complement (.chars ['\n', '\r']))
  else some (.complement (.chars ['\n']))

/-- The condition of an assertion. -/
def lookOf (flags : Flags) (kind : Assertion) : Look :=
  let ascii := !flags.unicode
  match kind with
  | .textStart => .textStart
  | .textEnd => .textEnd
  | .lineStart =>
    if flags.multiLine then if flags.crlf then .lineStartCrlf else .lineStart else .textStart
  | .lineEnd =>
    if flags.multiLine then if flags.crlf then .lineEndCrlf else .lineEnd else .textEnd
  | .wordBoundary => .boundary ascii
  | .notWordBoundary => .notBoundary ascii
  | .wordStart => .wordStart ascii
  | .wordEnd => .wordEnd ascii
  | .wordStartHalf => .wordStartHalf ascii
  | .wordEndHalf => .wordEndHalf ascii

end Flags

/-- A program that reads a character of a set. -/
def reading (flags : Flags) (set : Option CharSet) : Option (Program CharSet Look × Flags) :=
  set.map fun set => (.read set, flags)

mutual

/-- The program of a pattern and the flags after it. -/
def compile (flags : Flags) : Syntax → Option (Program CharSet Look × Flags)
  | .empty => some (.nothing, flags)
  | .flags changes => some (.nothing, flags.apply changes)
  | .literal literal => reading flags (flags.literalSet literal)
  | .dot => reading flags flags.dotSet
  | .assertion kind => some (.look (flags.lookOf kind), flags)
  | .letterClass kind negated => reading flags (flags.letterSet kind negated)
  | .property name negated => reading flags (flags.propertySet name negated)
  | .bracketed inner negated =>
    reading flags ((flags.classSet inner).bind (flags.foldAndNegate negated))
  | .repetition inner least most => do
    let (inner, flags) ← compile flags inner
    some (.repetition inner least most, flags)
  | .group captures changes inner => do
    let (inner, _) ← compile (flags.apply changes) inner
    some (if captures then .group inner else inner, flags)
  | .alternation branches => do
    let (branches, flags) ← compileAll flags branches
    some (.choice branches, flags)
  | .concatenation parts => do
    let (parts, flags) ← compileAll flags parts
    some (.sequence parts, flags)

/-- The programs of patterns that come one after another, and the flags after them. -/
def compileAll (flags : Flags) : List Syntax → Option (List (Program CharSet Look) × Flags)
  | [] => some ([], flags)
  | part :: rest => do
    let (part, flags) ← compile flags part
    let (rest, flags) ← compileAll flags rest
    some (part :: rest, flags)

end

/-- The greatest size of a program: ten mebibytes. -/
def largestProgram : Nat := 10 * 1024 * 1024

/-- What is said about a pattern whose program is too large. -/
def tooLarge : String :=
  "Compiled regex exceeds size limit of " ++ toString largestProgram ++ " bytes."

/-- The program of a pattern, or what is wrong with it. `describe` words what is wrong with the text
of a malformed pattern. -/
def program (describe : String → String) (text : String) :
    Except String (Program CharSet Look) :=
  match (Syntax.parse? text).bind (compile .initial) with
  | none => .error (describe text)
  | some (program, _) => if program.size ≤ largestProgram then .ok program else .error tooLarge

end DocumentApi.Pattern
