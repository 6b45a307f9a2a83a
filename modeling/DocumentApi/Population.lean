import DocumentApi.Text.Blank
import DocumentApi.Text.Split

/-!
# Population trees

A population says which references are to be replaced by the documents that they point to. It is a
tree: each node names a reference field, and the nodes below it name reference fields of the
document that takes its place. Siblings have distinct names and stand in order of first appearance.
-/

namespace DocumentApi

/-- A reference field to resolve, with those to resolve inside it. -/
inductive Population.Node where
  | mk (path : String) (children : List Population.Node)
  deriving Inhabited

/-- Reference fields to resolve, in order. -/
abbrev Population := List Population.Node

namespace Population

/-- The name of the reference field. -/
def Node.path : Node → String
  | .mk path _ => path

/-- The reference fields to resolve inside. -/
def Node.children : Node → Population
  | .mk _ children => children

/-- Changes the children of the node called `key` by `change`; if there is no such node, adds one at
the end with the children that `change` makes of none. -/
def alter (key : String) (change : Population → Population) : Population → Population
  | [] => [.mk key (change [])]
  | node :: rest =>
    if node.path = key then .mk node.path (change node.children) :: rest
    else node :: alter key change rest

/-- Adds a chain of reference fields, sharing the nodes that are there already. -/
def insert : List String → Population → Population
  | [], population => population
  | key :: rest, population => alter key (insert rest) population

/-- The names of an item: its parts between colons, trimmed, of which empty ones do not count. -/
def keysOf (item : List Char) : List String :=
  (((Text.pieces ':' item).map Text.trimChars).filter (!·.isEmpty)).map String.ofList

/-- Reads a list of chains with commas between them. -/
def parse (raw : String) : Population :=
  (Text.pieces ',' raw.toList).foldl (fun population item => insert (keysOf item) population) []

end Population

end DocumentApi
