import DocumentApi.Record

/-!
# Setting entries

Settings come from several sources, and what a source says is a tree of entries. A source that is
laid over another wins wherever both say something, except that tables are joined field by field.

* `Entry.nest` is the tree that says something at one path only;
* `Entry.overlay` lays one table over another.
-/

namespace DocumentApi.Settings

/-- What a source of settings says. -/
inductive Entry where
  | bool (value : Bool)
  | int (value : Int)
  | float (value : Binary64)
  | text (value : String)
  | list (items : List Entry)
  | table (fields : List (String × Entry))
  deriving Inhabited

namespace Entry

instance : Readable Entry where
  isNull _ := false
  bool?
    | .bool value => some value
    | _ => none
  text?
    | .text value => some value
    | _ => none
  int?
    | .int value => some value
    | _ => none
  fields? names
    | .table fields => some fields
    | .list items => some (names.zip items)
    | _ => none

/-- An entry at the end of a path. -/
def nest : List String → Entry → Entry
  | [], entry => entry
  | key :: rest, entry => .table [(key, nest rest entry)]

mutual

/-- Lays an entry over another one. -/
def laidOver (below : Entry) : Entry → Entry
  | .table later =>
    match below with
    | .table fields => .table (overlay fields later)
    | _ => .table later
  | other => other

/-- Lays the fields of a table over those of another one. -/
def overlay (fields : Fields Entry) : List (String × Entry) → Fields Entry
  | [] => fields
  | (key, entry) :: rest =>
    let merged := match Fields.get? fields key with
      | some below => laidOver below entry
      | none => entry
    overlay (Fields.insert fields key merged) rest

end

end Entry

end DocumentApi.Settings
