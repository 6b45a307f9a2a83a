import DocumentApi.Number.Numeral

/-!
# Calendar

Instants are counted in milliseconds from the start of 1970 in the proleptic Gregorian calendar,
without leap seconds. This module converts between day numbers and dates and gives the texts of
instants.

* `Calendar.Date.ofDays` and `Calendar.Date.toDays` convert between a day number and a date;
* `Calendar.Instant.rfc3339Millis` writes an instant for responses, `rfc3339Short` with a fraction
  only where there is one, `spaced` for messages;
* `Calendar.readRfc3339?` reads an instant.
-/

namespace DocumentApi.Calendar

/-- A date of the proleptic Gregorian calendar. -/
structure Date where
  year : Int
  month : Nat
  day : Nat
  deriving DecidableEq

namespace Date

/-- The number of days from the first of March of year 0 to the first of 1970. -/
def epochOffset : Int := 719468

/-- The date of a day number. Years are taken to begin in March, so that the leap day is the last
one of its year, and are counted within eras of 400 years. -/
def ofDays (days : Int) : Date :=
  let shifted := days + epochOffset
  -- An era has 146097 days. Its leap days are taken out before its years are counted.
  let era := shifted / 146097
  let dayOfEra := (shifted % 146097).toNat
  let yearOfEra := (dayOfEra - dayOfEra / 1460 + dayOfEra / 36524 - dayOfEra / 146096) / 365
  let dayOfYear := dayOfEra - (365 * yearOfEra + yearOfEra / 4 - yearOfEra / 100)
  -- From March on, five months in a row have 153 days together.
  let shiftedMonth := (5 * dayOfYear + 2) / 153
  let day := dayOfYear - (153 * shiftedMonth + 2) / 5 + 1
  let month := if shiftedMonth < 10 then shiftedMonth + 3 else shiftedMonth - 9
  let year := era * 400 + yearOfEra
  -- January and February belong to the year before.
  ⟨if month ≤ 2 then year + 1 else year, month, day⟩

/-- The day number of a date. -/
def toDays (date : Date) : Int :=
  let year := if date.month ≤ 2 then date.year - 1 else date.year
  let era := year / 400
  let yearOfEra := (year % 400).toNat
  let shiftedMonth := if 2 < date.month then date.month - 3 else date.month + 9
  let dayOfYear := (153 * shiftedMonth + 2) / 5 + date.day - 1
  let dayOfEra := yearOfEra * 365 + yearOfEra / 4 - yearOfEra / 100 + dayOfYear
  era * 146097 + dayOfEra - epochOffset

/-- Whether the year has a leap day. -/
def isLeapYear (year : Int) : Bool :=
  year % 4 = 0 && (year % 100 ≠ 0 || year % 400 = 0)

/-- The number of days of a month. -/
def daysInMonth (year : Int) (month : Nat) : Nat :=
  match month with
  | 2 => if isLeapYear year then 29 else 28
  | 4 | 6 | 9 | 11 => 30
  | _ => 31

/-- Whether the calendar has the date. -/
def isValid (date : Date) : Bool :=
  1 ≤ date.month && date.month ≤ 12 && 1 ≤ date.day && date.day ≤ daysInMonth date.year date.month

end Date

/-- A number with at least `width` digits, filled up with zeros from the left. -/
def padded (width n : Nat) : String :=
  let digits := Numeral.digitsOf n
  String.ofList (List.replicate (width - digits.length) '0' ++ digits)

/-- A date and a time of day. -/
structure Moment where
  date : Date
  hour : Nat
  minute : Nat
  second : Nat
  millisecond : Nat

/-- The milliseconds of a day. -/
def millisPerDay : Int := 86400000

namespace Instant

/-- The date and time of an instant. -/
def moment (millis : Int) : Moment :=
  -- The rest of the day is never negative, since division rounds down.
  let rest := (millis % millisPerDay).toNat
  ⟨Date.ofDays (millis / millisPerDay), rest / 3600000, rest / 60000 % 60, rest / 1000 % 60,
    rest % 1000⟩

/-- The first and last instants that a response can show. -/
def shownRange : Int × Int := (-8334601228800000, 8210266876799999)

/-- The instant itself if a response can show it, else the nearest one that it can. -/
def clampToShown (millis : Int) : Int :=
  max shownRange.1 (min shownRange.2 millis)

/-- A year with at least four digits, and with a sign if it is not from 0 to 9999. -/
def signedYear (year : Int) : String :=
  if year < 0 then "-" ++ padded 4 year.natAbs
  else if 9999 < year then "+" ++ padded 4 year.natAbs
  else padded 4 year.natAbs

/-- Year, month and day with dashes between them. -/
def dateText (date : Date) : String :=
  signedYear date.year ++ "-" ++ padded 2 date.month ++ "-" ++ padded 2 date.day

/-- Hour, minute and second with colons between them. -/
def clockText (m : Moment) : String :=
  padded 2 m.hour ++ ":" ++ padded 2 m.minute ++ ":" ++ padded 2 m.second

/-- The text of an instant in a response: RFC 3339 in UTC with three places of seconds. -/
def rfc3339Millis (millis : Int) : String :=
  let m := moment (clampToShown millis)
  dateText m.date ++ "T" ++ clockText m ++ "." ++ padded 3 m.millisecond ++ "Z"

/-- The digits of a count of milliseconds without zeros at their end. -/
def fractionDigits (millisecond : Nat) : String :=
  String.ofList ((padded 3 millisecond).toList.reverse.dropWhile (· == '0')).reverse

/-- RFC 3339 in UTC with as many places of seconds as are needed. -/
def rfc3339Short (millis : Int) : String :=
  let m := moment millis
  let fraction := if m.millisecond = 0 then "" else "." ++ fractionDigits m.millisecond
  dateText m.date ++ "T" ++ clockText m ++ fraction ++ "Z"

/-- Whether the instant lies in a year that the spaced form can write. -/
def hasSpacedForm (millis : Int) : Bool :=
  let year := (Date.ofDays (millis / millisPerDay)).year
  year ≤ 999999 && -999999 ≤ year

/-- The text of an instant in a message: date, time and offset with blanks between them, where the
hour is not filled up and there is always at least one place of seconds. Instants in years of more
than six digits are shown as their number. -/
def spaced (millis : Int) : String :=
  if hasSpacedForm millis then
    let m := moment millis
    let fraction := if m.millisecond = 0 then "0" else fractionDigits m.millisecond
    dateText m.date ++ " " ++ toString m.hour ++ ":" ++ padded 2 m.minute ++ ":" ++
      padded 2 m.second ++ "." ++ fraction ++ " +00:00:00"
  else toString millis

end Instant

/-! ### Reading RFC 3339 -/

/-- Reads a fixed number of digits, from a character to the rest of the text. -/
def readFixed? (count : Nat) (cs : List Char) : Option (Nat × List Char) :=
  let digits := cs.take count
  if digits.length = count && digits.all Numeral.isDigit then
    some (Numeral.value digits, cs.drop count)
  else none

/-- Reads the given character. -/
def readChar? (expected : Char) : List Char → Option (List Char)
  | c :: rest => if c = expected then some rest else none
  | [] => none

/-- Reads an optional point and digits as nanoseconds; digits beyond the ninth do not count. -/
def readNanos? : List Char → Option (Nat × List Char)
  | '.' :: rest =>
    let digits := rest.takeWhile Numeral.isDigit
    if digits.isEmpty then none
    else
      -- Missing places count as zeros.
      let nine := (digits ++ List.replicate 9 '0').take 9
      some (Numeral.value nine, rest.dropWhile Numeral.isDigit)
  | rest => some (0, rest)

/-- Reads `Z` or a signed offset of hours and minutes, in minutes, at the end of the text. -/
def readOffset? : List Char → Option Int
  | ['Z'] | ['z'] => some 0
  | sign :: rest => do
    let (hours, rest) ← readFixed? 2 rest
    let rest ← readChar? ':' rest
    let (minutes, rest) ← readFixed? 2 rest
    if rest.isEmpty && hours ≤ 23 && minutes ≤ 59 then
      let total : Int := 60 * hours + minutes
      if sign = '+' then some total else if sign = '-' then some (-total) else none
    else none
  | [] => none

/-- The milliseconds, rounded toward zero, of a number of seconds and a fraction of nanoseconds. -/
def truncatedMillis (seconds : Int) (nanos : Nat) : Int :=
  Int.tdiv (seconds * 1000000000 + nanos) 1000000

/-- Whether an instant is the last second of a month in UTC, the only place for a leap second. -/
def isLeapSecondPlace (seconds : Int) : Bool :=
  seconds % 86400 = 86399 && (Date.ofDays (seconds / 86400 + 1)).day = 1

/-- Reads an instant in the form of RFC 3339: a date, any ASCII character, a time, an optional
fraction and an offset. A leap second is read as the last nanosecond before it. -/
def readRfc3339? (text : String) : Option Int := do
  let (year, rest) ← readFixed? 4 text.toList
  let (month, rest) ← readFixed? 2 (← readChar? '-' rest)
  let (day, rest) ← readFixed? 2 (← readChar? '-' rest)
  let rest ← match rest with
    | separator :: rest => if separator.toNat < 128 then some rest else none
    | [] => none
  let (hour, rest) ← readFixed? 2 rest
  let (minute, rest) ← readFixed? 2 (← readChar? ':' rest)
  let (second, rest) ← readFixed? 2 (← readChar? ':' rest)
  let (nanos, rest) ← readNanos? rest
  let offset ← readOffset? rest
  let date : Date := ⟨year, month, day⟩
  if date.isValid && hour ≤ 23 && minute ≤ 59 then
    let minuteStart := date.toDays * 86400 + 3600 * hour + 60 * minute - 60 * offset
    if second ≤ 59 then some (truncatedMillis (minuteStart + second) nanos)
    else if second = 60 && isLeapSecondPlace (minuteStart + 59) then
      some (truncatedMillis (minuteStart + 59) 999999999)
    else none
  else none

end DocumentApi.Calendar
