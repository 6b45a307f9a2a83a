import DocumentApi.Json
import DocumentApi.Number.Numeral
import DocumentApi.Text.Hex

/-!
# Reading JSON

The grammar of JSON over lists of characters. A number without a point or an exponent is an integer
if it fits 64 bits, signed or not, and is not `-0`; all other numbers are rounded to binary64. A
name that is repeated in an object keeps its first place and takes its last value.
-/

namespace DocumentApi.Json

/-- The blanks of JSON. -/
def isSpace (c : Char) : Bool :=
  c == ' ' || c == '\n' || c == '\r' || c == '\t'

/-- The text after its leading blanks. -/
def skipSpace (cs : List Char) : List Char :=
  cs.dropWhile isSpace

/-- The character that a letter after a backslash stands for. -/
def escaped? : Char → Option Char
  | '"' => some '"'
  | '\\' => some '\\'
  | '/' => some '/'
  | 'b' => some '\x08'
  | 'f' => some '\x0c'
  | 'n' => some '\n'
  | 'r' => some '\r'
  | 't' => some '\t'
  | _ => none

/-- The character of a pair of surrogates. -/
def ofSurrogates? (high low : Nat) : Option Char :=
  if 0xD800 ≤ high ∧ high < 0xDC00 ∧ 0xDC00 ≤ low ∧ low < 0xE000 then
    some (Char.ofNat (0x10000 + (high - 0xD800) * 0x400 + (low - 0xDC00)))
  else none

/-- Reads the rest of a quoted text, up to and including its closing quote. -/
def readText : List Char → Option (List Char × List Char)
  | [] => none
  | '"' :: rest => some ([], rest)
  -- Two numbered characters in a row may be the two halves of one.
  | '\\' :: 'u' :: a :: b :: c :: d :: '\\' :: 'u' :: e :: f :: g :: h :: rest => do
    let first ← Text.Hex.value? [a, b, c, d]
    if 0xD800 ≤ first ∧ first < 0xDC00 then
      let char ← ofSurrogates? first (← Text.Hex.value? [e, f, g, h])
      let (more, rest) ← readText rest
      some (char :: more, rest)
    -- The second half of a pair does not stand alone.
    else if 0xDC00 ≤ first ∧ first < 0xE000 then none
    else
      -- They are two characters, so that the second is read by itself.
      let (more, rest) ← readText ('\\' :: 'u' :: e :: f :: g :: h :: rest)
      some (Char.ofNat first :: more, rest)
  | '\\' :: 'u' :: a :: b :: c :: d :: rest => do
    let code ← Text.Hex.value? [a, b, c, d]
    if 0xD800 ≤ code ∧ code < 0xE000 then none
    else
      let (more, rest) ← readText rest
      some (Char.ofNat code :: more, rest)
  | '\\' :: c :: rest => do
    let char ← escaped? c
    let (more, rest) ← readText rest
    some (char :: more, rest)
  | c :: rest =>
    -- Control characters have to be escaped.
    if c.toNat < 32 ∨ c = '\\' then none
    else do
      let (more, rest) ← readText rest
      some (c :: more, rest)
termination_by cs => cs.length

/-- The value of a number: its sign, whole digits, fraction digits, exponent and whether it is
written as an integer. -/
def numberValue? (negative : Bool) (whole fraction : List Char) (exponent : Int)
    (integral : Bool) : Option Json :=
  let magnitude : Int := Numeral.value whole
  let n := if negative then -magnitude else magnitude
  -- A negative zero is a double, as are integers that no type of 64 bits holds.
  if integral && !(negative && n == 0) && Int64.minValue.toInt ≤ n && n < UInt64.size then
    some (.int n)
  else
    let x := Binary64.ofDecimal negative (Numeral.value (whole ++ fraction))
      (exponent - fraction.length)
    if x.isFinite then some (.float x) else none

/-- Reads the exponent of a number, if there is one: its value, whether there is one and the rest of
the text. -/
def readExponent? : List Char → Option (Int × Bool × List Char)
  | c :: rest =>
    if c = 'e' ∨ c = 'E' then
      let (negative, body) := Numeral.Decimal.takeSign rest
      let digits := body.takeWhile Numeral.isDigit
      if digits.isEmpty then none
      else
        let n : Int := Numeral.value digits
        some (if negative then -n else n, true, body.dropWhile Numeral.isDigit)
    else some (0, false, c :: rest)
  | [] => some (0, false, [])

/-- Reads a number without its sign. -/
def readNumber? (negative : Bool) (cs : List Char) : Option (Json × List Char) := do
  let whole := cs.takeWhile Numeral.isDigit
  let afterWhole := cs.dropWhile Numeral.isDigit
  -- Zeros do not lead a number.
  if whole.isEmpty ∨ (1 < whole.length ∧ whole.head? = some '0') then none
  else
    let (fraction, afterFraction, pointed) := match afterWhole with
      | '.' :: rest => (rest.takeWhile Numeral.isDigit, rest.dropWhile Numeral.isDigit, true)
      | rest => ([], rest, false)
    if pointed && fraction.isEmpty then none
    else
      let (exponent, scaled, rest) ← readExponent? afterFraction
      -- A point or an exponent makes it a double, whatever its value is.
      let value ← numberValue? negative whole fraction exponent (!pointed && !scaled)
      some (value, rest)

mutual

/-- Reads a value after optional blanks. `fuel` bounds the nesting of the calls; twice the length of
the text is enough, since every second call consumes a character. -/
def readValue : Nat → List Char → Option (Json × List Char)
  | 0, _ => none
  | fuel + 1, cs =>
    match skipSpace cs with
    | 'n' :: 'u' :: 'l' :: 'l' :: rest => some (.null, rest)
    | 't' :: 'r' :: 'u' :: 'e' :: rest => some (.bool true, rest)
    | 'f' :: 'a' :: 'l' :: 's' :: 'e' :: rest => some (.bool false, rest)
    | '"' :: rest => (readText rest).map fun (text, rest) => (.str (String.ofList text), rest)
    | '[' :: rest =>
      match skipSpace rest with
      | ']' :: rest => some (.arr [], rest)
      | rest => (readItems fuel rest).map fun (items, rest) => (.arr items, rest)
    | '{' :: rest =>
      match skipSpace rest with
      | '}' :: rest => some (.obj [], rest)
      -- Of members with the same name the last one counts, in the place of the first.
      | rest => (readMembers fuel rest).map fun (pairs, rest) => (.obj (Fields.ofPairs pairs), rest)
    | '-' :: rest => readNumber? true rest
    | rest => readNumber? false rest

/-- Reads the items of an array up to and including its closing bracket. -/
def readItems : Nat → List Char → Option (List Json × List Char)
  | 0, _ => none
  | fuel + 1, cs => do
    let (item, rest) ← readValue fuel cs
    match skipSpace rest with
    | ']' :: rest => some ([item], rest)
    | ',' :: rest =>
      let (items, rest) ← readItems fuel rest
      some (item :: items, rest)
    | _ => none

/-- Reads the members of an object up to and including its closing brace. -/
def readMembers : Nat → List Char → Option (List (String × Json) × List Char)
  | 0, _ => none
  | fuel + 1, cs =>
    match skipSpace cs with
    | '"' :: rest => do
      let (name, rest) ← readText rest
      match skipSpace rest with
      | ':' :: rest =>
        let (value, rest) ← readValue fuel rest
        match skipSpace rest with
        | '}' :: rest => some ([(String.ofList name, value)], rest)
        | ',' :: rest =>
          let (members, rest) ← readMembers fuel rest
          some ((String.ofList name, value) :: members, rest)
        | _ => none
      | _ => none
    | _ => none

end

/-- Reads a text that holds one value and nothing else but blanks. -/
def parse? (text : String) : Option Json :=
  let cs := text.toList
  match readValue (2 * cs.length + 2) cs with
  | some (value, rest) => if (skipSpace rest).isEmpty then some value else none
  | none => none

end DocumentApi.Json
