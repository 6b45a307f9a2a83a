import DocumentApi.Text.Hex

/-!
# Object identifiers

Every stored document is named by an identifier of twelve bytes, written as 24 hexadecimal digits.

* `ObjectId.ofHex?` accepts exactly 24 digits of either case, `ObjectId.toHex` writes lower-case
  ones, and reading what was written gives the identifier back (`ofHex?_toHex`).
-/

namespace DocumentApi

/-- An identifier of twelve bytes. -/
structure ObjectId where
  val : Nat
  isLt : val < Nat.pow 16 24
  deriving DecidableEq

namespace ObjectId

instance : Inhabited ObjectId := ⟨⟨0, by decide⟩⟩

/-- The identifier with the given number, reduced to its last twelve bytes. -/
def ofNat (n : Nat) : ObjectId :=
  ⟨n % Nat.pow 16 24, Nat.mod_lt _ (by decide)⟩

/-- Reads exactly 24 hexadecimal digits of either case. -/
def ofHex? (text : String) : Option ObjectId :=
  if text.toList.length = 24 then (Text.Hex.value? text.toList).map ofNat else none

/-- The identifier as 24 lower-case hexadecimal digits. -/
def toHex (id : ObjectId) : String :=
  String.ofList (Text.Hex.fixed 24 id.val)

/-- Reading a written identifier gives it back. -/
theorem ofHex?_toHex (id : ObjectId) : ofHex? id.toHex = some id := by
  obtain ⟨n, h⟩ := id
  have hmod : n % Nat.pow 16 24 = n := Nat.mod_eq_of_lt h
  simp only [ofHex?, toHex, String.toList_ofList, Text.Hex.length_fixed, if_true,
    Text.Hex.value?_fixed, Option.map_some, hmod, ofNat]

end ObjectId

end DocumentApi
