import DocumentApi.Pattern.CharSet

/-!
# Matching patterns

A program is what a pattern is compiled to. It moves sets of places: from the places where a match
of it may begin to the places where such a match ends. The places of a text with n characters are
the numbers from 0 to n, and a set of places is a natural number whose binary digits say which
places are in it.

* `Program.ends` gives the places where matches end;
* `Program.occursIn` says whether a program matches somewhere in a text.
-/

namespace DocumentApi.Pattern

/-- Conditions on a place, with all flags decided; `ascii` says whether only the word characters of
ASCII count. -/
inductive Look where
  | textStart
  | textEnd
  | lineStart
  | lineEnd
  | lineStartCrlf
  | lineEndCrlf
  | boundary (ascii : Bool)
  | notBoundary (ascii : Bool)
  | wordStart (ascii : Bool)
  | wordEnd (ascii : Bool)
  | wordStartHalf (ascii : Bool)
  | wordEndHalf (ascii : Bool)
  deriving DecidableEq

namespace Look

/-- Whether there is a character, and it is one of a word. -/
def isWord (ascii : Bool) : Option Char → Bool
  | some c => (if ascii then CharSet.ofAscii .word else CharSet.ofLetter .word).contains c
  | none => false

/-- Whether the condition holds between two neighbouring characters, of which there is none at the
ends of the text. -/
def holds (before after : Option Char) : Look → Bool
  | .textStart => before.isNone
  | .textEnd => after.isNone
  | .lineStart => before.isNone || before == some '\n'
  | .lineEnd => after.isNone || after == some '\n'
  | .lineStartCrlf =>
    before.isNone || before == some '\n' || (before == some '\r' && after ≠ some '\n')
  | .lineEndCrlf =>
    after.isNone || after == some '\r' || (after == some '\n' && before ≠ some '\r')
  | .boundary ascii => isWord ascii before != isWord ascii after
  | .notBoundary ascii => isWord ascii before == isWord ascii after
  | .wordStart ascii => !isWord ascii before && isWord ascii after
  | .wordEnd ascii => isWord ascii before && !isWord ascii after
  | .wordStartHalf ascii => !isWord ascii before
  | .wordEndHalf ascii => !isWord ascii after

end Look

/-- A compiled pattern over ways `κ` to read a character and conditions `ι` on a place. -/
inductive Program (κ ι : Type) where
  | nothing
  | read (chars : κ)
  | look (condition : ι)
  | group (inner : Program κ ι)
  | sequence (parts : List (Program κ ι))
  | choice (branches : List (Program κ ι))
  | repetition (inner : Program κ ι) (least : Nat) (most : Option Nat)

/-- A set of places as the binary digits of a number. -/
abbrev Places := Nat

namespace Places

/-- The places, counted from `place`, at which a list holds true. -/
def ofListFrom (place : Nat) : List Bool → Places
  | [] => 0
  | true :: rest => 1 <<< place ||| ofListFrom (place + 1) rest
  | false :: rest => ofListFrom (place + 1) rest

/-- The places at which a list holds true. -/
def ofList (list : List Bool) : Places :=
  ofListFrom 0 list

end Places

namespace Program

variable {κ ι : Type}

/-- Applies a step on sets of places up to `count` times, stopping where it changes nothing. -/
def iterate (step : Places → Places) : Nat → Places → Places
  | 0, places => places
  | count + 1, places =>
    let next := step places
    if next = places then places else iterate step count next

mutual

/-- The places where matches of a program end that begin at one of the given places. The places at
which a character can be read and at which a condition holds are given as sets, and `size` is the
number of places: a set that grows at every step has stopped growing after so many steps. -/
def ends (size : Nat) : Program Places Places → Places → Places
  | .nothing, places => places
  -- A character is read at its place, so the match ends at the next one.
  | .read chars, places => (places &&& chars) <<< 1
  | .look condition, places => places &&& condition
  | .group inner, places => ends size inner places
  | .sequence parts, places => endsOfSequence size parts places
  | .choice branches, places => endsOfChoice size branches places
  | .repetition inner least most, places =>
    -- What is beyond the least number of times may be left out at any time.
    let further := (most.map (· - least)).getD size
    -- A match may end after any number of further times, so all ends are kept.
    iterate (fun places => places ||| ends size inner places) further
      (iterate (ends size inner) least places)

/-- The ends of matches of several programs one after another. -/
def endsOfSequence (size : Nat) : List (Program Places Places) → Places → Places
  | [], places => places
  | part :: rest, places => endsOfSequence size rest (ends size part places)

/-- The ends of matches of any of several programs. -/
def endsOfChoice (size : Nat) : List (Program Places Places) → Places → Places
  | [], _ => 0
  | branch :: rest, places => ends size branch places ||| endsOfChoice size rest places

end

mutual

/-- The program with other ways to read and other conditions. -/
def map {κ' ι' : Type} (reading : κ → κ') (condition : ι → ι') : Program κ ι → Program κ' ι'
  | .nothing => .nothing
  | .read chars => .read (reading chars)
  | .look place => .look (condition place)
  | .group inner => .group (map reading condition inner)
  | .sequence parts => .sequence (mapAll reading condition parts)
  | .choice branches => .choice (mapAll reading condition branches)
  | .repetition inner least most => .repetition (map reading condition inner) least most

/-- Programs with other ways to read and other conditions. -/
def mapAll {κ' ι' : Type} (reading : κ → κ') (condition : ι → ι') :
    List (Program κ ι) → List (Program κ' ι')
  | [] => []
  | part :: rest => map reading condition part :: mapAll reading condition rest

end

/-- The places at which a character of a set can be read. -/
def readable (text : List Char) (set : CharSet) : Places :=
  .ofList (text.map set.contains)

/-- The places at which a condition holds. -/
def looking (text : List Char) (look : Look) : Places :=
  -- There is one place more than there are characters, with a neighbour missing at each end.
  .ofList (((none :: text.map some).zip (text.map some ++ [none])).map fun (before, after) =>
    look.holds before after)

/-- Whether a program matches somewhere in a text. -/
def occursIn (program : Program CharSet Look) (text : String) : Bool :=
  let cs := text.toList
  let size := cs.length + 1
  -- A match may begin anywhere.
  ends size (program.map (readable cs) (looking cs)) (1 <<< size - 1) ≠ 0

/-! ### Size

The size of a program bounds what a pattern may ask for. It is measured by the states of an
automaton that matches the pattern byte by byte, in bytes. -/

mutual

/-- Whether all matches of a program are empty. -/
def isEmptyOnly : Program κ ι → Bool
  | .nothing | .look _ => true
  | .read _ => false
  | .group inner => isEmptyOnly inner
  | .sequence parts => areEmptyOnly parts
  | .choice branches => areEmptyOnly branches
  | .repetition inner _ most => isEmptyOnly inner || most = some 0

/-- Whether all matches of several programs are empty. -/
def areEmptyOnly : List (Program κ ι) → Bool
  | [] => true
  | part :: rest => isEmptyOnly part && areEmptyOnly rest

end

mutual

/-- Whether a program has an empty match, whatever its conditions say. -/
def mayBeEmpty : Program κ ι → Bool
  | .nothing | .look _ => true
  | .read _ => false
  | .group inner => mayBeEmpty inner
  | .sequence parts => allMayBeEmpty parts
  | .choice branches => anyMayBeEmpty branches
  | .repetition inner least _ => least = 0 || mayBeEmpty inner

/-- Whether all of several programs have an empty match. -/
def allMayBeEmpty : List (Program κ ι) → Bool
  | [] => true
  | part :: rest => mayBeEmpty part && allMayBeEmpty rest

/-- Whether one of several programs has an empty match. -/
def anyMayBeEmpty : List (Program κ ι) → Bool
  | [] => false
  | branch :: rest => mayBeEmpty branch || anyMayBeEmpty rest

end

/-- The bytes of a state. -/
def stateSize : Nat := 32

/-- The bytes of the states that read a character of a set: one state for ASCII, and otherwise about
two for every range. -/
def readSize (set : CharSet) : Nat :=
  match set with
  | .chars [c] => stateSize * c.utf8Size
  | set =>
    if set.isAscii then 2 * stateSize + 8 * set.rangeCount
    else 2 * stateSize + 60 * set.rangeCount

/-- The bytes of the states of a repetition whose inner part takes `inner` bytes. -/
def repetitionSize (inner : Nat) (emptyOnly mayBeEmpty : Bool) (least : Nat) (most : Option Nat) :
    Nat :=
  -- To repeat what is always empty changes nothing.
  let least := if emptyOnly then min least 1 else least
  let most := if emptyOnly then some (min (most.getD 1) 1) else most
  let optional := inner + stateSize + 8
  match most with
  | none =>
    if least = 0 then if mayBeEmpty then inner + 3 * stateSize + 16 else optional
    else least * inner + stateSize + 8
  | some most =>
    if most = 0 then stateSize
    else if least = most then least * inner
    else least * inner + (most - least) * optional + stateSize

mutual

/-- The bytes of the states of a program. -/
def size : Program CharSet Look → Nat
  | .nothing => stateSize
  | .read set => readSize set
  | .look _ => stateSize
  | .group inner => size inner + 2 * stateSize
  | .sequence parts => sizeOfAll parts
  | .choice branches => sizeOfAll branches + 2 * stateSize + 4 * branches.length
  | .repetition inner least most =>
    repetitionSize (size inner) (isEmptyOnly inner) (mayBeEmpty inner) least most

/-- The bytes of the states of several programs. -/
def sizeOfAll : List (Program CharSet Look) → Nat
  | [] => 0
  | part :: rest => size part + sizeOfAll rest

end

end Program

end DocumentApi.Pattern
