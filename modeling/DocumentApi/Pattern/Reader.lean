import DocumentApi.Number.Numeral
import DocumentApi.Pattern.Syntax
import DocumentApi.Text.Blank
import DocumentApi.Text.Hex
import DocumentApi.Text.Split
import DocumentApi.Unicode.BinaryProperty
import DocumentApi.Unicode.GeneralCategory

/-!
# Reading patterns

Patterns are read from left to right with a stack of the groups, and inside a class in brackets of
the classes, that have been opened. There is neither looking around nor reference to earlier groups.

* `Syntax.parse?` reads a whole pattern and refuses one that is nested too deeply.
-/

namespace DocumentApi.Pattern

/-! ### Blanks

`x` says throughout whether blanks and comments in the pattern do not count. -/

/-- The text after blanks and comments, where `comment` says that a comment has begun. -/
def skipIgnored (comment : Bool) : List Char → List Char
  | [] => []
  | c :: rest =>
    if comment then skipIgnored (c ≠ '\n') rest
    else if Text.isBlank c then skipIgnored false rest
    else if c = '#' then skipIgnored true rest
    else c :: rest

/-- The text after what does not count at its start. -/
def skip (x : Bool) (cs : List Char) : List Char :=
  if x then skipIgnored false cs else cs

/-- The first character after blanks, where one mark of a comment counts as a blank. -/
def peekIgnored (marked : Bool) : List Char → Option Char
  | [] => none
  | c :: rest =>
    if Text.isBlank c then peekIgnored marked rest
    else if c = '#' ∧ !marked then peekIgnored true rest
    else some c

/-- The character that follows, without what does not count. -/
def peek (x : Bool) (cs : List Char) : Option Char :=
  if x then peekIgnored false cs else cs.head?

/-! ### Escapes -/

/-- Whether `c` has a meaning of its own in some place of a pattern. -/
def isMeta (c : Char) : Bool :=
  ['\\', '.', '+', '*', '?', '(', ')', '|', '[', ']', '{', '}', '^', '$', '#', '&', '-',
    '~'].contains c

/-- Whether a backslash before `c` makes it stand for itself: all ASCII characters but letters,
digits and angle brackets. -/
def isEscapable (c : Char) : Bool :=
  isMeta c || (c.toNat < 128 && !c.isAlphanum && c ≠ '<' && c ≠ '>')

/-- A character that stands for itself. -/
def verbatim (c : Char) : Syntax :=
  .literal ⟨c, false⟩

/-- The character with a number, if there is one. -/
def charOf? (n : Nat) : Option Char :=
  if n < 0xD800 ∨ (0xDFFF < n ∧ n < 0x110000) then some (Char.ofNat n) else none

/-- Reads `count` more digits of a number in hexadecimal, of which `value` has been read. -/
def readHexDigits (x : Bool) (value : Nat) : Nat → List Char → Option (Nat × List Char)
  | 0, cs => some (value, cs)
  | _ + 1, [] => none
  | count + 1, c :: rest => do
    let digit ← Text.Hex.digitValue? c
    readHexDigits x (16 * value + digit) count (skip x rest)

/-- The characters up to a closing brace, without those that do not count, and the text after the
brace; `comment` says that a comment has begun. -/
def readBraced (x comment : Bool) : List Char → Option (List Char × List Char)
  | [] => none
  | c :: rest =>
    -- A comment goes on to the end of its line.
    if comment then readBraced x (c ≠ '\n') rest
    else if c = '}' then some ([], rest)
    else if x && Text.isBlank c then readBraced x false rest
    else if x && c = '#' then readBraced x true rest
    else (readBraced x false rest).map fun (inside, rest) => (c :: inside, rest)

/-- Reads the number of a character, in braces or with a fixed count of digits. -/
def readHex (x : Bool) (digits : Nat) (cs : List Char) : Option (Syntax × List Char) :=
  match skip x cs with
  | [] => none
  | '{' :: rest => do
    let (inside, rest) ← readBraced x false rest
    if inside.isEmpty then none
    else
      let char ← charOf? (← Text.Hex.value? inside)
      some (verbatim char, skip x rest)
  | cs => do
    let (n, rest) ← readHexDigits x 0 digits cs
    let char ← charOf? n
    -- Only two digits can stand for a byte.
    some (.literal ⟨char, digits == 2⟩, rest)

/-- The name of a class of Unicode, and whether it is negated, from the text in its braces. -/
def propertyOf (name : List Char) : PropertyName × Bool :=
  match cutNotEqual? name, Text.cut? ':' name, Text.cut? '=' name with
  | some (property, value), _, _ => (.ofValue (String.ofList property) (String.ofList value), true)
  | none, some (property, value), _ =>
    (.ofValue (String.ofList property) (String.ofList value), false)
  | none, none, some (property, value) =>
    (.ofValue (String.ofList property) (String.ofList value), false)
  | none, none, none => (.single (String.ofList name), false)
where
  /-- What stands before and after the first `!=`. -/
  cutNotEqual? : List Char → Option (List Char × List Char)
    | '!' :: '=' :: rest => some ([], rest)
    | c :: rest => (cutNotEqual? rest).map fun (before, after) => (c :: before, after)
    | [] => none

/-- Reads the name of a class of Unicode: one letter, or a name in braces. -/
def readProperty (x negated : Bool) (cs : List Char) : Option (Syntax × List Char) :=
  match skip x cs with
  | [] => none
  | '{' :: rest => do
    let (inside, rest) ← readBraced x false rest
    let (name, opposite) := propertyOf inside
    some (.property name (negated != opposite), rest)
  | c :: rest =>
    if c = '\\' then none
    else some (.property (.single (String.singleton c)) negated, skip x rest)

/-- The boundary with a name in braces. -/
def boundaryOf? (name : String) : Option Assertion :=
  match name with
  | "start" => some .wordStart
  | "end" => some .wordEnd
  | "start-half" => some .wordStartHalf
  | "end-half" => some .wordEndHalf
  | _ => none

/-- Whether `c` may stand in the name of a boundary. -/
def isBoundaryChar (c : Char) : Bool :=
  c.isAlpha || c == '-'

/-- Reads what follows the letter of a word boundary: a name in braces, if the braces begin like
one, and else nothing. -/
def readBoundary (x : Bool) (cs : List Char) : Option (Syntax × List Char) :=
  match cs with
  -- Braces that do not begin like a name are a repetition, which is read later.
  | '{' :: rest =>
    match skip x rest with
    | [] => none
    -- What comes first decides whether the braces are a name.
    | first :: _ =>
      if isBoundaryChar first then do
        let (inside, rest) ← readBraced x false rest
        let kind ← boundaryOf? (String.ofList inside)
        some (.assertion kind, rest)
      else some (.assertion .wordBoundary, cs)
  | _ => some (.assertion .wordBoundary, cs)

/-- Reads what follows a backslash. -/
def readEscape (x : Bool) : List Char → Option (Syntax × List Char)
  | [] => none
  | c :: rest =>
    match c with
    | 'x' => readHex x 2 rest
    | 'u' => readHex x 4 rest
    | 'U' => readHex x 8 rest
    | 'p' => readProperty x false rest
    | 'P' => readProperty x true rest
    | 'd' => some (.letterClass .digit false, rest)
    | 's' => some (.letterClass .space false, rest)
    | 'w' => some (.letterClass .word false, rest)
    | 'D' => some (.letterClass .digit true, rest)
    | 'S' => some (.letterClass .space true, rest)
    | 'W' => some (.letterClass .word true, rest)
    | 'a' => some (verbatim '\x07', rest)
    | 'f' => some (verbatim '\x0c', rest)
    | 't' => some (verbatim '\t', rest)
    | 'n' => some (verbatim '\n', rest)
    | 'r' => some (verbatim '\r', rest)
    | 'v' => some (verbatim '\x0b', rest)
    | 'A' => some (.assertion .textStart, rest)
    | 'z' => some (.assertion .textEnd, rest)
    | 'b' => readBoundary x rest
    | 'B' => some (.assertion .notWordBoundary, rest)
    | '<' => some (.assertion .wordStart, rest)
    | '>' => some (.assertion .wordEnd, rest)
    | c => if isEscapable c then some (verbatim c, rest) else none

/-! ### Classes in brackets -/

/-- What has been opened inside brackets: a class with the items before it, or an operation with its
left side. Items are kept last first. -/
inductive ClassFrame where
  | opened (before : List ClassSyntax) (negated : Bool)
  | operation (kind : SetOperation) (left : ClassSyntax)

/-- The class of ASCII characters with a name. -/
def asciiClassOf? (name : String) : Option AsciiClass :=
  match name with
  | "alnum" => some .alnum
  | "alpha" => some .alpha
  | "ascii" => some .ascii
  | "blank" => some .blank
  | "cntrl" => some .cntrl
  | "digit" => some .digit
  | "graph" => some .graph
  | "lower" => some .lower
  | "print" => some .print
  | "punct" => some .punct
  | "space" => some .space
  | "upper" => some .upper
  | "word" => some .word
  | "xdigit" => some .xdigit
  | _ => none

/-- Reads a class of ASCII characters, from the text after its opening bracket. -/
def readAsciiClass? (cs : List Char) : Option (ClassSyntax × List Char) :=
  match cs with
  | ':' :: rest =>
    let (negated, rest) := match rest with
      | '^' :: rest => (true, rest)
      | rest => (false, rest)
    match Text.cut? ':' rest with
    | some (name, ']' :: rest) =>
      (asciiClassOf? (String.ofList name)).map fun kind => (.ascii kind negated, rest)
    | _ => none
  | _ => none

/-- Reads the dashes at the start of a class, which stand for themselves, with what does not count
between them; the items are last first. `fuel` as long as the text is enough. -/
def readDashes (x : Bool) : Nat → List ClassSyntax → List Char →
    Option (List ClassSyntax × List Char)
  | _, _, [] => none
  | 0, items, cs => some (items, cs)
  -- They stand for themselves as long as nothing else has come.
  | fuel + 1, items, c :: rest =>
    if c = '-' then readDashes x fuel (.literal ⟨'-', false⟩ :: items) (skip x rest)
    else some (items, c :: rest)

/-- Reads the start of a class after its opening bracket: a negation, dashes that stand for
themselves, and a closing bracket that does so in first place. -/
def openClass (x : Bool) (cs : List Char) : Option (Bool × List ClassSyntax × List Char) := do
  let (negated, cs) := match skip x cs with
    | '^' :: rest => (true, skip x rest)
    | rest => (false, rest)
  let (items, cs) ← readDashes x cs.length [] cs
  match items, cs with
  | [], ']' :: rest =>
    match skip x rest with
    | [] => none
    | rest => some (negated, [.literal ⟨']', false⟩], rest)
  | items, rest => some (negated, items, rest)

/-- A part of a pattern as an item of a class; conditions are none. -/
def classItem? : Syntax → Option ClassSyntax
  | .literal literal => some (.literal literal)
  | .letterClass kind negated => some (.letter kind negated)
  | .property name negated => some (.property name negated)
  | _ => none

/-- A part of a pattern as an end of a range; only characters are. -/
def rangeEnd? : Syntax → Option Literal
  | .literal literal => some literal
  | _ => none

/-- Reads a character or an escape inside a class. -/
def readClassPart (x : Bool) : List Char → Option (Syntax × List Char)
  | [] => none
  | '\\' :: rest => readEscape x rest
  | c :: rest => some (verbatim c, rest)

/-- Reads an item of a class or a range of two characters. A dash before a closing bracket or
another dash makes no range. -/
def readClassRange (x : Bool) (cs : List Char) : Option (ClassSyntax × List Char) := do
  let (first, rest) ← readClassPart x cs
  match skip x rest with
  | [] => none
  | '-' :: rest =>
    let next := peek x rest
    if next = some ']' ∨ next = some '-' then
      some (← classItem? first, '-' :: rest)
    else
      let (last, rest) ← readClassPart x (skip x rest)
      let first ← rangeEnd? first
      let last ← rangeEnd? last
      if first.char ≤ last.char then some (.range first last, rest) else none
  | rest => some (← classItem? first, rest)

/-- The class that ends here, given its last items: with the operation that waits for it, if there
is one. -/
def closeOperand (stack : List ClassFrame) (items : List ClassSyntax) :
    ClassSyntax × List ClassFrame :=
  let right := ClassSyntax.ofItems items.reverse
  match stack with
  | .operation kind left :: stack => (.combine kind left right, stack)
  | stack => (right, stack)

/-- Reads the rest of a class in brackets, given what has been opened and the items read since;
every step reads a character, so `fuel` as long as the text is enough. -/
def readClass (x : Bool) :
    Nat → List ClassFrame → List ClassSyntax → List Char → Option (Syntax × List Char)
  | 0, _, _, _ => none
  | fuel + 1, stack, items, cs =>
    -- The items so far are the left side of what follows.
    let operation (kind : SetOperation) (rest : List Char) :=
      let (left, stack) := closeOperand stack items
      readClass x fuel (.operation kind left :: stack) [] rest
    match skip x cs with
    | [] => none
    -- Either a class with a name, or a class of its own inside this one.
    | '[' :: rest =>
      match readAsciiClass? rest with
      | some (item, rest) => readClass x fuel stack (item :: items) rest
      | none => do
        let (negated, first, rest) ← openClass x rest
        readClass x fuel (.opened items negated :: stack) first rest
    | ']' :: rest =>
      let (inner, stack) := closeOperand stack items
      -- The outermost bracket ends the class, and any other goes on with the class around it.
      match stack with
      | [.opened _ negated] => some (.bracketed inner negated, rest)
      | .opened before negated :: stack =>
        readClass x fuel stack (.bracketed negated inner :: before) rest
      | _ => none
    | '&' :: '&' :: rest => operation .intersection rest
    | '-' :: '-' :: rest => operation .difference rest
    | '~' :: '~' :: rest => operation .symmetricDifference rest
    | cs => do
      let (item, rest) ← readClassRange x cs
      readClass x fuel stack (item :: items) rest

/-- Reads a class in brackets, from the text after its opening bracket. -/
def readBracketed (x : Bool) (cs : List Char) : Option (Syntax × List Char) := do
  let (negated, items, rest) ← openClass x cs
  readClass x (rest.length + 1) [.opened [] negated] items rest

/-! ### Groups and repetitions -/

/-- The flag that a letter stands for. -/
def flagOf? : Char → Option Flag
  | 'i' => some .ignoreCase
  | 'm' => some .multiLine
  | 's' => some .dotAll
  | 'U' => some .swapGreed
  | 'u' => some .unicode
  | 'R' => some .crlf
  | 'x' => some .ignoreBlanks
  | _ => none

/-- Reads flags up to the colon or parenthesis that ends them: the changes, that end and the text
after it. `negated` says that a minus sign has been read and `dangling` that nothing has followed
it. -/
def readFlags (changes : FlagChanges) (negated dangling : Bool) :
    List Char → Option (FlagChanges × Char × List Char)
  | [] => none
  | c :: rest =>
    if c = ':' ∨ c = ')' then if dangling then none else some (changes, c, rest)
    else if c = '-' then if negated then none else readFlags changes true true rest
    else do
      let flag ← flagOf? c
      -- No flag is named twice, in either direction.
      if (changes.state? flag).isSome then none
      else readFlags (changes ++ [(flag, !negated)]) negated false rest

/-- Whether `c` is in one of the categories of numbers. -/
def isNumber (c : Char) : Bool :=
  [Unicode.GeneralCategory.decimalNumber, Unicode.GeneralCategory.letterNumber,
    Unicode.GeneralCategory.otherNumber].any (·.contains c)

/-- Whether `c` may stand in the name of a group, or begin it. -/
def isNameChar (first : Bool) (c : Char) : Bool :=
  c == '_' || Unicode.BinaryProperty.alphabetic.contains c ||
    (!first && (c == '.' || c == '[' || c == ']' || isNumber c))

/-- Reads the name of a group and the bracket that closes it. -/
def readGroupName (cs : List Char) : Option (String × List Char) := do
  let (name, rest) ← Text.cut? '>' cs
  match name with
  | [] => none
  | first :: others =>
    if isNameChar true first && others.all (isNameChar false) then
      some (String.ofList name, rest)
    else none

/-- What an opening parenthesis begins. -/
inductive Opening where
  /-- A group, with the changes of flags inside it. -/
  | group (captures : Bool) (changes : FlagChanges)
  /-- A group with a name. -/
  | named (name : String)
  /-- Changes of flags for what follows. -/
  | flags (changes : FlagChanges)

/-- Reads what follows an opening parenthesis. -/
def readOpening (x : Bool) (cs : List Char) : Option (Opening × List Char) :=
  match skip x cs with
  -- Nothing looks ahead or behind.
  | '?' :: '=' :: _ | '?' :: '!' :: _ | '?' :: '<' :: '=' :: _ | '?' :: '<' :: '!' :: _ => none
  | '?' :: 'P' :: '<' :: rest | '?' :: '<' :: rest =>
    (readGroupName rest).map fun (name, rest) => (.named name, rest)
  | '?' :: rest => do
    let (changes, ending, rest) ← readFlags [] false false rest
    -- Without a colon the flags hold for the rest of the group around them.
    if ending = ')' then
      if changes.isEmpty then none else some (.flags changes, rest)
    else some (.group false changes, rest)
  | rest => some (.group true [], rest)

/-- The digits at the start of a text, each followed by what does not count; `fuel` as long as the
text is enough. -/
def takeCountDigits (x : Bool) : Nat → List Char → List Char × List Char
  | fuel + 1, c :: rest =>
    if Numeral.isDigit c then
      let (digits, rest) := takeCountDigits x fuel (skip x rest)
      (c :: digits, rest)
    else ([], c :: rest)
  | _, cs => ([], cs)

/-- Reads a number of repetitions of 32 bits, with blanks around it. -/
def readCount (x : Bool) (cs : List Char) : Option (Nat × List Char) :=
  -- The digits are read first, and then whether they fit.
  let (digits, rest) := takeCountDigits x cs.length (cs.dropWhile Text.isBlank)
  let n := Numeral.value digits
  if digits.isEmpty || UInt32.size ≤ n then none else some (n, rest.dropWhile Text.isBlank)

/-- Reads the counts of a repetition after its opening brace: the least and the greatest. -/
def readCounts (x : Bool) (cs : List Char) : Option (Nat × Option Nat × List Char) := do
  let (least, rest) ← readCount x (skip x cs)
  match rest with
  | '}' :: rest => some (least, some least, rest)
  | ',' :: rest =>
    match skip x rest with
    | '}' :: rest => some (least, none, rest)
    | rest =>
      let (most, rest) ← readCount x rest
      match rest with
      | '}' :: rest => if least ≤ most then some (least, some most, rest) else none
      | _ => none
  | _ => none

/-- The text after a question mark that makes a repetition lazy; which of several matches is found
makes no difference to whether there is one. -/
def skipLazy : List Char → List Char
  | '?' :: rest => rest
  | cs => cs

/-! ### Whole patterns -/

/-- What stood before an open group: the branches and parts of the pattern around it, last first,
how it was opened and whether blanks counted there. -/
structure GroupFrame where
  branches : List Syntax
  parts : List Syntax
  captures : Bool
  changes : FlagChanges
  ignoreBlanks : Bool

/-- How far a pattern has been read: the open groups, the branches and parts since the last one was
opened, last first, and the names of groups. -/
structure Progress where
  ignoreBlanks : Bool
  groups : List GroupFrame
  branches : List Syntax
  parts : List Syntax
  names : List String

namespace Progress

/-- The start of a pattern. -/
def start : Progress := ⟨false, [], [], [], []⟩

/-- Adds a part. -/
def push (progress : Progress) (part : Syntax) : Progress :=
  { progress with parts := part :: progress.parts }

/-- Ends a branch. -/
def endBranch (progress : Progress) : Progress :=
  { progress with branches := .ofParts progress.parts.reverse :: progress.branches, parts := [] }

/-- The pattern since the last group was opened. -/
def current (progress : Progress) : Syntax :=
  .ofBranches progress.endBranch.branches.reverse

/-- Repeats the last part. -/
def repeatLast (progress : Progress) (least : Nat) (most : Option Nat) : Option Progress :=
  match progress.parts with
  | part :: parts =>
    if part.isRepeatable then
      some { progress with parts := .repetition part least most :: parts }
    else none
  | [] => none

/-- Opens a group. -/
def openGroup (progress : Progress) (captures : Bool) (changes : FlagChanges) : Progress :=
  let frame : GroupFrame :=
    ⟨progress.branches, progress.parts, captures, changes, progress.ignoreBlanks⟩
  { progress with
    groups := frame :: progress.groups
    branches := []
    -- Inside a group nothing has been read yet.
    parts := []
    ignoreBlanks := (changes.state? .ignoreBlanks).getD progress.ignoreBlanks }

/-- Closes the last group. -/
def closeGroup (progress : Progress) : Option Progress :=
  match progress.groups with
  | [] => none
  | frame :: groups =>
    some { progress with
      groups := groups
      branches := frame.branches
      parts := .group frame.captures frame.changes progress.current :: frame.parts
      ignoreBlanks := frame.ignoreBlanks }

/-- Takes up what an opening parenthesis begins. -/
def takeOpening (progress : Progress) : Opening → Option Progress
  | .group captures changes => some (progress.openGroup captures changes)
  -- A name stands for one group only.
  | .named name =>
    if progress.names.contains name then none
    else some ({ progress with names := name :: progress.names }.openGroup true [])
  | .flags changes =>
    some ({ progress with
      ignoreBlanks := (changes.state? .ignoreBlanks).getD progress.ignoreBlanks }.push
        (.flags changes))

/-- Reads one step of a pattern that is not at its end. -/
def step (progress : Progress) (cs : List Char) : Option (Progress × List Char) :=
  let x := progress.ignoreBlanks
  match cs with
  | [] => none
  | '(' :: rest => do
    let (opening, rest) ← readOpening x rest
    some (← progress.takeOpening opening, rest)
  | ')' :: rest => do some (← progress.closeGroup, rest)
  | '|' :: rest => some (progress.endBranch, rest)
  | '[' :: rest => do
    let (part, rest) ← readBracketed x rest
    some (progress.push part, rest)
  | '?' :: rest => do some (← progress.repeatLast 0 (some 1), skipLazy rest)
  | '*' :: rest => do some (← progress.repeatLast 0 none, skipLazy rest)
  | '+' :: rest => do some (← progress.repeatLast 1 none, skipLazy rest)
  | '{' :: rest => do
    let (least, most, rest) ← readCounts x rest
    some (← progress.repeatLast least most, skipLazy (skip x rest))
  | '\\' :: rest => do
    let (part, rest) ← readEscape x rest
    some (progress.push part, rest)
  | '.' :: rest => some (progress.push .dot, rest)
  | '^' :: rest => some (progress.push (.assertion .lineStart), rest)
  | '$' :: rest => some (progress.push (.assertion .lineEnd), rest)
  | c :: rest => some (progress.push (verbatim c), rest)

/-- Reads to the end of a pattern; every step reads a character, so `fuel` beyond the length of the
text is enough. -/
def run : Nat → Progress → List Char → Option Syntax
  | 0, _, _ => none
  | fuel + 1, progress, cs =>
    match skip progress.ignoreBlanks cs with
    -- All groups have to be closed at the end.
    | [] => if progress.groups.isEmpty then some progress.current else none
    | cs => do
      let (progress, rest) ← progress.step cs
      run fuel progress rest

end Progress

/-- How deeply a pattern may be nested. -/
def deepest : Nat := 250

/-- Reads a pattern. -/
def Syntax.parse? (text : String) : Option Syntax :=
  let cs := text.toList
  (Progress.run (cs.length + 1) .start cs).filter fun pattern => pattern.depth ≤ deepest

end DocumentApi.Pattern
