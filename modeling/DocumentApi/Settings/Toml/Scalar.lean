import DocumentApi.Calendar
import DocumentApi.Number.Numeral
import DocumentApi.Settings.Entry
import DocumentApi.Text.Hex

/-!
# TOML scalars

Texts, numbers, truth values and dates. Each reader takes what it reads off a list of characters and
gives back the rest.
-/

namespace DocumentApi.Settings.Toml

/-- Whether `c` is a blank inside a line. -/
def isBlank (c : Char) : Bool :=
  c = ' ' || c = '\t'

/-- Whether `c` may stand for itself in texts and comments: no control but the tab. -/
def isPlain (c : Char) : Bool :=
  c = '\t' || (32 ≤ c.toNat && c.toNat ≠ 127)

/-! ### Texts -/

/-- The character that hexadecimal digits write. -/
def charOf? (digits : List Char) : Option Char := do
  let n ← Text.Hex.value? digits
  if n.isValidChar then some (Char.ofNat n) else none

/-- The character that a letter after a backslash stands for. -/
def escaped? (c : Char) : Option Char :=
  match c with
  | 'b' => some '\x08'
  | 't' => some '\t'
  | 'n' => some '\n'
  | 'f' => some '\x0c'
  | 'r' => some '\r'
  | '"' => some '"'
  | '\\' => some '\\'
  | _ => none

/-- Puts a character in front of what is read. -/
def consRead (c : Char) : Option (List Char × List Char) → Option (List Char × List Char) :=
  Option.map fun (cs, rest) => (c :: cs, rest)

/-- Reads a text in double quotes after the opening one. -/
def readBasic : List Char → Option (List Char × List Char)
  | [] => none
  | '"' :: rest => some ([], rest)
  | '\\' :: 'u' :: a :: b :: c :: d :: rest =>
    (charOf? [a, b, c, d]).bind fun char => consRead char (readBasic rest)
  | '\\' :: 'U' :: a :: b :: c :: d :: e :: f :: g :: h :: rest =>
    (charOf? [a, b, c, d, e, f, g, h]).bind fun char => consRead char (readBasic rest)
  | '\\' :: c :: rest => (escaped? c).bind fun char => consRead char (readBasic rest)
  | c :: rest => if isPlain c then consRead c (readBasic rest) else none

/-- Reads a text in single quotes, in which nothing is escaped, after the opening one. -/
def readLiteral : List Char → Option (List Char × List Char)
  | [] => none
  | '\'' :: rest => some ([], rest)
  | c :: rest => if isPlain c then consRead c (readLiteral rest) else none

/-- Whether a line ends here but for blanks. -/
def endsLine (cs : List Char) : Bool :=
  match cs.dropWhile isBlank with
  | '\n' :: _ => true
  | '\r' :: '\n' :: _ => true
  | _ => false

/-- Reads a text of several lines after its three opening double quotes. One or two quotes may stand
before the closing three. A backslash at the end of a line takes away all blanks and line ends up to
the next character, while `skipping`. -/
def readBasicLines (skipping : Bool) : List Char → Option (List Char × List Char)
  | [] => none
  | '"' :: '"' :: '"' :: '"' :: '"' :: rest => some (['"', '"'], rest)
  | '"' :: '"' :: '"' :: '"' :: rest => some (['"'], rest)
  | '"' :: '"' :: '"' :: rest => some ([], rest)
  | '\r' :: '\n' :: rest =>
    if skipping then readBasicLines true rest else consRead '\n' (readBasicLines false rest)
  | '\\' :: 'u' :: a :: b :: c :: d :: rest =>
    (charOf? [a, b, c, d]).bind fun char => consRead char (readBasicLines false rest)
  | '\\' :: 'U' :: a :: b :: c :: d :: e :: f :: g :: h :: rest =>
    (charOf? [a, b, c, d, e, f, g, h]).bind fun char => consRead char (readBasicLines false rest)
  | '\\' :: c :: rest =>
    if endsLine (c :: rest) then readBasicLines true (c :: rest)
    else (escaped? c).bind fun char => consRead char (readBasicLines false rest)
  | c :: rest =>
    if skipping && (isBlank c || c = '\n') then readBasicLines true rest
    else if isPlain c || c = '\n' then consRead c (readBasicLines false rest)
    else none

/-- Reads a text of several lines after its three opening single quotes. -/
def readLiteralLines : List Char → Option (List Char × List Char)
  | [] => none
  | '\'' :: '\'' :: '\'' :: '\'' :: '\'' :: rest => some (['\'', '\''], rest)
  | '\'' :: '\'' :: '\'' :: '\'' :: rest => some (['\''], rest)
  | '\'' :: '\'' :: '\'' :: rest => some ([], rest)
  | '\r' :: '\n' :: rest => consRead '\n' (readLiteralLines rest)
  | c :: rest => if isPlain c || c = '\n' then consRead c (readLiteralLines rest) else none

/-- Drops a line end that stands first. -/
def skipLineEnd : List Char → List Char
  | '\n' :: rest => rest
  | '\r' :: '\n' :: rest => rest
  | cs => cs

/-- Reads a text in quotes of any kind. -/
def readText : List Char → Option (List Char × List Char)
  | '"' :: '"' :: '"' :: rest => readBasicLines false (skipLineEnd rest)
  | '"' :: rest => readBasic rest
  | '\'' :: '\'' :: '\'' :: rest => readLiteralLines (skipLineEnd rest)
  | '\'' :: rest => readLiteral rest
  | _ => none

/-! ### Numbers -/

/-- Takes digits off a text, with a single underscore allowed between two of them. -/
def moreDigits (isDigit : Char → Bool) : List Char → List Char × List Char
  | '_' :: d :: rest =>
    if isDigit d then
      let (digits, rest) := moreDigits isDigit rest
      (d :: digits, rest)
    else ([], '_' :: d :: rest)
  | d :: rest =>
    if isDigit d then
      let (digits, rest) := moreDigits isDigit rest
      (d :: digits, rest)
    else ([], d :: rest)
  | [] => ([], [])

/-- Takes one or more digits off a text. -/
def readDigits (isDigit : Char → Bool) : List Char → Option (List Char × List Char)
  | d :: rest =>
    if isDigit d then
      let (digits, rest) := moreDigits isDigit rest
      some (d :: digits, rest)
    else none
  | [] => none

/-- Reads the fraction of a number after its digits, if it has one. -/
def readFraction : List Char → Option (Option (List Char) × List Char)
  | '.' :: rest => (readDigits Char.isDigit rest).map fun (digits, rest) => (some digits, rest)
  | rest => some (none, rest)

/-- Reads the exponent of a number, if it has one. -/
def readExponent : List Char → Option (Option Int × List Char)
  | c :: rest =>
    if c = 'e' || c = 'E' then
      let (negative, body) := Numeral.Decimal.takeSign rest
      (readDigits Char.isDigit body).map fun (digits, rest) =>
        let value : Int := Numeral.value digits
        (some (if negative then -value else value), rest)
    else some (none, c :: rest)
  | [] => some (none, [])

/-- The integer of 64 bits that a number is. -/
def int64? (n : Int) : Option Entry :=
  if Int64.minValue.toInt ≤ n ∧ n ≤ Int64.maxValue.toInt then some (.int n) else none

/-- The float that a numeral writes; there is none above the largest one. -/
def float? (negative : Bool) (digits : List Char) (exponent : Int) : Option Entry :=
  match Binary64.ofDecimal negative (Numeral.value digits) exponent with
  | .infinite false => none
  | x => some (.float x)

/-- Reads a decimal number after its sign. -/
def readDecimal (negative : Bool) (cs : List Char) : Option (Entry × List Char) := do
  let (whole, rest) ← readDigits Char.isDigit cs
  if whole.length ≠ 1 ∧ whole.head? = some '0' then none
  else do
    let (fraction, rest) ← readFraction rest
    let (exponent, rest) ← readExponent rest
    match fraction, exponent with
    | none, none =>
      let n : Int := Numeral.value whole
      some (← int64? (if negative then -n else n), rest)
    | _, _ =>
      let digits := fraction.getD []
      some (← float? negative (whole ++ digits) (exponent.getD 0 - digits.length), rest)

/-- Reads an integer with another base after the sign of the base. -/
def readWithBase (base : Nat) (cs : List Char) : Option (Entry × List Char) := do
  let isDigit (c : Char) : Bool := match Text.Hex.digitValue? c with
    | some value => value < base
    | none => false
  let (digits, rest) ← readDigits isDigit cs
  let value := digits.foldl (fun n c => base * n + (Text.Hex.digitValue? c).getD 0) 0
  some (← int64? value, rest)

/-- Reads a number, which may have a sign. -/
def readNumber : List Char → Option (Entry × List Char)
  | '0' :: 'x' :: rest => readWithBase 16 rest
  | '0' :: 'o' :: rest => readWithBase 8 rest
  | '0' :: 'b' :: rest => readWithBase 2 rest
  | cs =>
    let (negative, body) := Numeral.Decimal.takeSign cs
    match body with
    | 'i' :: 'n' :: 'f' :: rest => some (.float (.infinite negative), rest)
    | 'n' :: 'a' :: 'n' :: rest => some (.float .nan, rest)
    | _ => readDecimal negative body

/-! ### Dates and times -/

/-- Reads a number of exactly `count` digits between two bounds. -/
def readFixed (count least most : Nat) (cs : List Char) : Option (Nat × List Char) :=
  let digits := cs.take count
  let n := Numeral.value digits
  if digits.length = count && digits.all Char.isDigit && least ≤ n && n ≤ most then
    some (n, cs.drop count)
  else none

/-- Reads a character that has to be there. -/
def expect (c : Char) : List Char → Option (List Char)
  | d :: rest => if d = c then some rest else none
  | [] => none

/-- Reads a date of the calendar. -/
def readDate (cs : List Char) : Option (List Char) := do
  let (year, rest) ← readFixed 4 0 9999 cs
  let (month, rest) ← readFixed 2 1 12 (← expect '-' rest)
  let (_, rest) ← readFixed 2 1 (Calendar.Date.daysInMonth year month) (← expect '-' rest)
  some rest

/-- Drops a fraction of a second. -/
def skipFraction : List Char → Option (List Char)
  | '.' :: rest =>
    if (rest.takeWhile Char.isDigit).isEmpty then none else some (rest.dropWhile Char.isDigit)
  | rest => some rest

/-- Reads a time of the day. -/
def readTime (cs : List Char) : Option (List Char) := do
  let (_, rest) ← readFixed 2 0 23 cs
  let (_, rest) ← readFixed 2 0 59 (← expect ':' rest)
  let (_, rest) ← readFixed 2 0 60 (← expect ':' rest)
  skipFraction rest

/-- Reads the offset of a time, if it has one. -/
def skipOffset : List Char → Option (List Char)
  | c :: rest =>
    if c = 'Z' || c = 'z' then some rest
    else if c = '+' || c = '-' then do
      let (_, rest) ← readFixed 2 0 23 rest
      let (_, rest) ← readFixed 2 0 59 (← expect ':' rest)
      some rest
    else some (c :: rest)
  | [] => some []

/-- Whether a time follows after a date. -/
def isTimeAhead : List Char → Bool
  | sign :: a :: b :: ':' :: _ =>
    (sign = 'T' || sign = 't' || sign = ' ') && a.isDigit && b.isDigit
  | _ => false

/-- Reads a date, a time or both. -/
def readMoment (cs : List Char) : Option (List Char) :=
  match readDate cs with
  | some rest => if isTimeAhead rest then (readTime (rest.drop 1)).bind skipOffset else some rest
  | none => readTime cs

/-- Whether a text starts like a date or a time. -/
def isMomentAhead : List Char → Bool
  | a :: b :: c :: d :: '-' :: _ => [a, b, c, d].all Char.isDigit
  | a :: b :: ':' :: _ => a.isDigit && b.isDigit
  | _ => false

/-- Dates and times have no form of their own among entries: they are tables with one field. -/
def momentEntry (text : List Char) : Entry :=
  .table [("$date", .text (String.ofList text))]

/-- Reads a date, a time, a number or a truth value. -/
def readWord (cs : List Char) : Option (Entry × List Char) :=
  if isMomentAhead cs then
    (readMoment cs).map fun rest => (momentEntry (cs.take (cs.length - rest.length)), rest)
  else match cs with
  | 't' :: 'r' :: 'u' :: 'e' :: rest => some (.bool true, rest)
  | 'f' :: 'a' :: 'l' :: 's' :: 'e' :: rest => some (.bool false, rest)
  | cs => readNumber cs

end DocumentApi.Settings.Toml
