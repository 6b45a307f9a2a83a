import DocumentApi.Settings.Entry

/-!
# TOML tables

A TOML document builds its tables bit by bit, and each part of it may be said only once. So a table
under construction remembers how it came about: it was stated by a header, it is implied by the
header of a table inside it, or it was made by a dotted key. Values, among them tables in braces,
are closed.

* `Node.alterAt` changes the table at the end of a path and makes the tables on the way.
-/

namespace DocumentApi.Settings.Toml

/-- How a table came about. -/
inductive Origin where
  | stated
  | implied
  | dotted
  deriving DecidableEq

/-- What stands under a key while a document is read. -/
inductive Node where
  | closed (entry : Entry)
  | table (origin : Origin) (fields : List (String × Node))
  /-- A list of tables, of which the last one is still open. -/
  | tables (earlier : List (List (String × Node))) (last : List (String × Node))

namespace Node

/-- Changes the fields of the table at the end of a path, where `origin` is how the table at its
start came about. Tables on the way are made if they are absent. A dotted key may not lead into a
table that a header states. -/
def alterAt (byDots : Bool) (change : Origin → Fields Node → Option (Fields Node)) :
    List String → Origin → Fields Node → Option (Fields Node)
  | [], origin, fields => change origin fields
  | key :: rest, _, fields =>
    match Fields.get? fields key with
    | none =>
      let origin := if byDots then .dotted else .implied
      (alterAt byDots change rest origin []).map fun inner =>
        Fields.insert fields key (.table origin inner)
    | some (.table origin inner) =>
      if byDots && origin = .stated then none
      else (alterAt byDots change rest origin inner).map fun inner =>
        Fields.insert fields key (.table origin inner)
    | some (.tables earlier last) =>
      (alterAt byDots change rest .stated last).map fun last =>
        Fields.insert fields key (.tables earlier last)
    | some (.closed _) => none

/-- Gives a key that says nothing yet a value. -/
def define (key : String) (value : Entry) (fields : Fields Node) : Option (Fields Node) :=
  if Fields.contains fields key then none else some (fields ++ [(key, .closed value)])

/-- Gives a dotted key a value; the table that it is put into has to come from dotted keys too. -/
def defineAt (path : List String) (key : String) (value : Entry) :
    Origin → Fields Node → Option (Fields Node) :=
  alterAt true (fun origin fields =>
    if path.isEmpty || origin = .dotted then define key value fields else none) path

/-- States a table under a key; only an implied one may be there already. -/
def state (key : String) (fields : Fields Node) : Option (Fields Node) :=
  match Fields.get? fields key with
  | none => some (fields ++ [(key, .table .stated [])])
  | some (.table .implied inner) => some (Fields.insert fields key (.table .stated inner))
  | some _ => none

/-- Opens a further table of the list of tables under a key. -/
def append (key : String) (fields : Fields Node) : Option (Fields Node) :=
  match Fields.get? fields key with
  | none => some (fields ++ [(key, .tables [] [])])
  | some (.tables earlier last) =>
    some (Fields.insert fields key (.tables (earlier ++ [last]) []))
  | some _ => none

mutual

/-- The entry that a node is. -/
def toEntry : Node → Entry
  | .closed entry => entry
  | .table _ fields => .table (toEntries fields)
  | .tables earlier last => .list (toTables earlier ++ [.table (toEntries last)])

/-- The entries that fields are. -/
def toEntries : List (String × Node) → Fields Entry
  | [] => []
  | (key, node) :: rest => (key, toEntry node) :: toEntries rest

/-- The tables of a list. -/
def toTables : List (List (String × Node)) → List Entry
  | [] => []
  | fields :: rest => .table (toEntries fields) :: toTables rest

end

end Node

end DocumentApi.Settings.Toml
