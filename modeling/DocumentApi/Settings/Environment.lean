import DocumentApi.Number.Numeral
import DocumentApi.Settings.Entry
import DocumentApi.Text.Blank
import DocumentApi.Text.Hex
import DocumentApi.Text.Split

/-!
# Settings in the environment

Variables whose names start with `DOCREST_` are settings. The rest of the name, in lower case, is a
path with two underscores between its parts. The value is a text that may write a truth value, a
number, a text in quotes, a list in square brackets or a table in braces; a text that writes none of
these stands for itself.

* `Environment.readValue` reads the value of a variable;
* `Environment.entries` is what all variables say, where later ones win over earlier ones.
-/

namespace DocumentApi.Settings.Environment

/-- How the names of settings start. -/
def namePrefix : String := "docrest_"

/-- Whether `c` is a blank of ASCII. -/
def isBlank (c : Char) : Bool :=
  c = ' ' || c = '\t' || c = '\n' || c = '\x0c' || c = '\r'

/-- Whether `c` separates values from each other. -/
def isSeparator (c : Char) : Bool :=
  c = ',' || c = '{' || c = '}' || c = '[' || c = ']'

/-- Drops blanks of ASCII. -/
def skipBlanks (cs : List Char) : List Char :=
  cs.dropWhile isBlank

/-- Splits a text in quotes off, where a backslash protects the character after it: what stands
between the quotes, still with the backslashes, and what follows. -/
def takeQuoted : List Char → Option (List Char × List Char)
  | [] => none
  | '"' :: rest => some ([], rest)
  | '\\' :: c :: rest => (takeQuoted rest).map fun (cs, rest) => ('\\' :: c :: cs, rest)
  | c :: rest => (takeQuoted rest).map fun (cs, rest) => (c :: cs, rest)

/-- The character that hexadecimal digits write. -/
def charOf? (digits : List Char) : Option Char := do
  let n ← Text.Hex.value? digits
  if n.isValidChar then some (Char.ofNat n) else none

/-- Whether `c` may stand in a text in quotes. -/
def isPlain (c : Char) : Bool :=
  c = '\t' || (32 ≤ c.toNat && c.toNat ≠ 127)

/-- The text that is written between quotes. -/
def unescape : List Char → Option (List Char)
  | [] => some []
  | '\\' :: 'u' :: a :: b :: c :: d :: rest => do
    some ((← charOf? [a, b, c, d]) :: (← unescape rest))
  | '\\' :: 'U' :: a :: b :: c :: d :: e :: f :: g :: h :: rest => do
    some ((← charOf? [a, b, c, d, e, f, g, h]) :: (← unescape rest))
  | '\\' :: 'b' :: rest => (unescape rest).map ('\x08' :: ·)
  | '\\' :: 'f' :: rest => (unescape rest).map ('\x0c' :: ·)
  | '\\' :: 'n' :: rest => (unescape rest).map ('\n' :: ·)
  | '\\' :: 'r' :: rest => (unescape rest).map ('\r' :: ·)
  | '\\' :: 't' :: rest => (unescape rest).map ('\t' :: ·)
  | '\\' :: '"' :: rest => (unescape rest).map ('"' :: ·)
  | '\\' :: '\\' :: rest => (unescape rest).map ('\\' :: ·)
  | '\\' :: _ => none
  | c :: rest => if isPlain c then (unescape rest).map (c :: ·) else none

/-- Reads a text after its opening quote. -/
def readQuoted (cs : List Char) : Option (String × List Char) := do
  let (inner, rest) ← takeQuoted cs
  some (String.ofList (← unescape inner), rest)

/-- The number that a word without quotes writes, or the word itself. -/
def ofWord (word : List Char) : Entry :=
  let float := if word.contains '.' then Numeral.readReal? word else none
  match float with
  | some x => .float x
  | none =>
    match Numeral.readIntBetween? Int64.minValue.toInt (UInt64.size - 1) word with
    | some n => .int n
    | none => .text (String.ofList word)

/-- Reads a word without quotes, up to the next separator. -/
def readWord (cs : List Char) : Entry × List Char :=
  (ofWord (Text.trimChars (cs.takeWhile (!isSeparator ·))), cs.dropWhile (!isSeparator ·))

/-- Whether `c` may stand in the name of a field that is not in quotes. -/
def isNameChar (c : Char) : Bool :=
  c.isAlphanum || c = '_' || c = '-'

/-- Takes the name of a field of a table off a text, with the blanks around it and the sign `=`
after it. -/
def readKey (cs : List Char) : Option (String × List Char) :=
  let named : Option (String × List Char) := match skipBlanks cs with
    | '"' :: rest => readQuoted rest
    | rest =>
      let name := rest.takeWhile isNameChar
      if name.isEmpty then none else some (String.ofList name, rest.dropWhile isNameChar)
  named.bind fun (name, rest) =>
    match skipBlanks rest with
    | '=' :: rest => some (name, rest)
    | _ => none

mutual

/-- Reads a value with the blanks around it. Every nested value is shorter than the one around it,
so `fuel` greater than the length of the text suffices. -/
def readEntry : Nat → List Char → Option (Entry × List Char)
  | 0, _ => none
  | fuel + 1, cs =>
    let read : Option (Entry × List Char) := match skipBlanks cs with
      | 't' :: 'r' :: 'u' :: 'e' :: rest => some (.bool true, rest)
      | 'f' :: 'a' :: 'l' :: 's' :: 'e' :: rest => some (.bool false, rest)
      | '{' :: rest => (readFields fuel rest).map fun (fields, rest) => (.table fields, rest)
      | '[' :: rest => (readItems fuel rest).map fun (items, rest) => (.list items, rest)
      | '"' :: rest => (readQuoted rest).map fun (text, rest) => (.text text, rest)
      | '\'' :: rest =>
        match rest with
        | c :: '\'' :: rest => some (.text (String.singleton c), rest)
        | _ => none
      | rest => some (readWord rest)
    read.map fun (entry, rest) => (entry, skipBlanks rest)

/-- Reads the items of a list up to its end; a comma may follow the last one. -/
def readItems : Nat → List Char → Option (List Entry × List Char)
  | 0, _ => none
  | fuel + 1, cs =>
    match cs with
    | ']' :: rest => some ([], rest)
    | cs => do
      let (item, rest) ← readEntry fuel cs
      match rest with
      | ',' :: rest =>
        let (items, rest) ← readItems fuel rest
        some (item :: items, rest)
      | ']' :: rest => some ([item], rest)
      | _ => none

/-- Reads the fields of a table up to its end; a comma may follow the last one. -/
def readFields : Nat → List Char → Option (Fields Entry × List Char)
  | 0, _ => none
  | fuel + 1, cs =>
    match cs with
    | '}' :: rest => some ([], rest)
    | cs => do
      let (name, rest) ← readKey cs
      let (value, rest) ← readEntry fuel rest
      match rest with
      | ',' :: rest =>
        let (fields, rest) ← readFields fuel rest
        some ((name, value) :: fields, rest)
      | '}' :: rest => some ([(name, value)], rest)
      | _ => none

end

/-- Reads the value of a variable. -/
def readValue (text : String) : Entry :=
  let cs := text.toList
  match readEntry (2 * cs.length + 2) cs with
  | some (entry, []) => entry
  | _ => .text text

/-- Replaces two underscores by a dot, from left to right. -/
def dotted : List Char → List Char
  | '_' :: '_' :: rest => '.' :: dotted rest
  | c :: rest => c :: dotted rest
  | [] => []

/-- The path that the name of a variable stands for, if it is that of a setting. Nothing after an
empty part counts. -/
def pathOf? (name : String) : Option (List String) :=
  let cs := Text.trimChars name.toList
  let start := namePrefix.toList
  if (cs.take start.length).map Char.toLower = start then
    let path := (Text.trimChars (dotted (cs.drop start.length))).map Char.toLower
    if path.isEmpty then none
    else some (((Text.pieces '.' path).takeWhile (!·.isEmpty)).map String.ofList)
  else none

/-- What one variable says; nothing if it is no setting. -/
def entriesOf (name value : String) : Fields Entry :=
  match (pathOf? name).map (Entry.nest · (readValue value)) with
  | some (.table fields) => fields
  | _ => []

/-- What the variables of the environment say. -/
def entries (environment : List (String × String)) : Fields Entry :=
  environment.foldl (fun merged (name, value) => Entry.overlay merged (entriesOf name value)) []

end DocumentApi.Settings.Environment
