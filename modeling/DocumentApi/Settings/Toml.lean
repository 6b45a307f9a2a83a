import DocumentApi.Settings.Toml.Scalar
import DocumentApi.Settings.Toml.Tree

/-!
# TOML

Settings files are written in TOML, version 1.0. A document is a list of statements on lines of
their own: headers, which state the table that what follows is about, and assignments of values to
keys. A document that breaks a rule of the format is refused as a whole.

* `Toml.read?` gives what a document says.
-/

namespace DocumentApi.Settings.Toml

/-- How deeply values may be nested, and how many parts a dotted key may have, plus one. -/
def nestingBound : Nat := 80

/-- Drops blanks. -/
def skipBlanks (cs : List Char) : List Char :=
  cs.dropWhile isBlank

/-- Drops blanks, line ends and comments. -/
def skipFiller (inComment : Bool) : List Char → List Char
  | [] => []
  | '\n' :: rest => skipFiller false rest
  | '\r' :: '\n' :: rest => skipFiller false rest
  | c :: rest =>
    -- A comment ends before a character that may not be in it, which is an error later on.
    if inComment then if isPlain c then skipFiller true rest else c :: rest
    else if isBlank c then skipFiller false rest
    else if c = '#' then skipFiller true rest
    else c :: rest

/-- Requires that nothing but blanks and a comment is left on the line, and drops them. -/
def endLine (cs : List Char) : Option (List Char) :=
  let rest := match skipBlanks cs with
    | '#' :: comment => comment.dropWhile isPlain
    | rest => rest
  match rest with
  | [] => some []
  | '\n' :: rest => some rest
  | '\r' :: '\n' :: rest => some rest
  | _ => none

/-! ### Keys -/

/-- Whether `c` may stand in a key that is not in quotes. -/
def isKeyChar (c : Char) : Bool :=
  c.isAlphanum || c = '_' || c = '-'

/-- Reads one part of a key. -/
def readKeyPart (cs : List Char) : Option (String × List Char) :=
  match cs with
  | '"' :: rest => (readBasic rest).map fun (key, rest) => (String.ofList key, rest)
  | '\'' :: rest => (readLiteral rest).map fun (key, rest) => (String.ofList key, rest)
  | cs =>
    let key := cs.takeWhile isKeyChar
    if key.isEmpty then none else some (String.ofList key, cs.dropWhile isKeyChar)

/-- Reads a key of at most `most` parts with dots between them, and the blanks around it. -/
def readKey : Nat → List Char → Option (List String × List Char)
  | 0, _ => none
  | most + 1, cs => do
    let (part, rest) ← readKeyPart (skipBlanks cs)
    match skipBlanks rest with
    | '.' :: rest =>
      let (parts, rest) ← readKey most rest
      some (part :: parts, rest)
    | rest => some ([part], rest)

/-- The last part of a key and those before it. -/
def splitLast : List String → List String × String
  | [] => ([], "")
  | [part] => ([], part)
  | part :: rest =>
    let (path, last) := splitLast rest
    (part :: path, last)

/-- Reads a key and the sign `=` after it. -/
def readTarget (cs : List Char) : Option ((List String × String) × List Char) := do
  let (key, rest) ← readKey (nestingBound - 1) cs
  some (splitLast key, ← expect '=' rest)

/-! ### Values -/

mutual

/-- Reads a value, inside which others may be nested `depth` deep. Everything nested is shorter than
what is around it, so `fuel` greater than the length of the text suffices. -/
def readValue (depth : Nat) : Nat → List Char → Option (Entry × List Char)
  | 0, _ => none
  | fuel + 1, cs =>
    match cs with
    | '"' :: _ | '\'' :: _ => (readText cs).map fun (text, rest) =>
        (.text (String.ofList text), rest)
    | '[' :: rest =>
      -- Every bracket takes one from the depth that is left.
      if depth = 0 then none
      else (readItems (depth - 1) fuel (skipFiller false rest)).map fun (items, rest) =>
        (.list items, rest)
    | '{' :: rest =>
      if depth = 0 then none
      else match skipBlanks rest with
        | '}' :: rest => some (.table [], rest)
        | rest => (readFields (depth - 1) fuel [] rest).map fun (fields, rest) =>
            (.table (Node.toEntries fields), rest)
    | cs => readWord cs

/-- Reads the items of a list up to its end; a comma may follow the last one. -/
def readItems (depth : Nat) : Nat → List Char → Option (List Entry × List Char)
  | 0, _ => none
  | fuel + 1, cs =>
    match cs with
    | ']' :: rest => some ([], rest)
    | cs => do
      let (item, rest) ← readValue depth fuel cs
      match skipFiller false rest with
      | ',' :: rest =>
        let (items, rest) ← readItems depth fuel (skipFiller false rest)
        some (item :: items, rest)
      | ']' :: rest => some ([item], rest)
      | _ => none

/-- Reads the fields of a table in braces up to its end, all on one line, and adds them to
others. -/
def readFields (depth : Nat) : Nat → Fields Node → List Char → Option (Fields Node × List Char)
  | 0, _, _ => none
  | fuel + 1, fields, cs => do
    let ((path, key), rest) ← readTarget cs
    let (value, rest) ← readValue depth fuel (skipBlanks rest)
    let fields ← Node.defineAt path key value .stated fields
    -- A comma has to be followed by another field.
    match skipBlanks rest with
    | ',' :: rest => readFields depth fuel fields rest
    | '}' :: rest => some (fields, rest)
    | _ => none

end

/-! ### Documents -/

/-- What has been read of a document: its tables and the header above the next line. -/
structure State where
  root : Fields Node
  header : List String

namespace State

/-- Changes the table that the header states. -/
def define (state : State) (path : List String) (key : String) (value : Entry) : Option State :=
  let change := Node.defineAt path key value
  (Node.alterAt false change state.header .stated state.root).map fun root =>
    { state with root }

/-- Follows a header. -/
def follow (state : State) (change : String → Fields Node → Option (Fields Node))
    (header : List String) : Option State :=
  let (path, key) := splitLast header
  (Node.alterAt false (fun _ => change key) path .stated state.root).map fun root =>
    ⟨root, header⟩

end State

/-- Reads one statement, which starts the text. -/
def readStatement (state : State) (cs : List Char) : Option (State × List Char) :=
  match cs with
  -- A header in two pairs of brackets adds a table to a list.
  | '[' :: '[' :: rest => do
    let (header, rest) ← readKey (nestingBound - 1) rest
    let rest ← expect ']' (← expect ']' rest)
    some (← state.follow Node.append header, rest)
  -- One in a single pair states a table.
  | '[' :: rest => do
    let (header, rest) ← readKey (nestingBound - 1) rest
    let rest ← expect ']' rest
    some (← state.follow Node.state header, rest)
  -- Anything else is a key with its value.
  | cs => do
    let ((path, key), rest) ← readTarget cs
    let (value, rest) ← readValue (nestingBound - 1) (2 * cs.length + 2) (skipBlanks rest)
    some (← state.define path key value, rest)

/-- Reads statements to the end of the text. Every statement takes up at least one character, so
`fuel` greater than the length of the text suffices. -/
def readStatements : Nat → State → List Char → Option State
  | 0, _, _ => none
  | fuel + 1, state, cs =>
    match skipFiller false cs with
    | [] => some state
    | cs => do
      let (state, rest) ← readStatement state cs
      -- A statement has its line for itself.
      readStatements fuel state (← endLine rest)

/-- Drops the mark that a text may start with to tell its encoding. -/
def skipMark : List Char → List Char
  | '\uFEFF' :: rest => rest
  | cs => cs

/-- What a document says. -/
def read? (text : String) : Option (Fields Entry) :=
  let cs := skipMark text.toList
  (readStatements (cs.length + 1) ⟨[], []⟩ cs).map fun state => Node.toEntries state.root

end DocumentApi.Settings.Toml
