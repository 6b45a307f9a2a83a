import DocumentApi.Text.Hex

/-!
# Percent-encoding

A byte may be written as `%` and two hexadecimal digits. Decoding works on the bytes of the text:
any other `%` stands for itself, and a text whose decoded bytes are not UTF-8 is left as it is.
-/

namespace DocumentApi.Text.Percent

/-- The value of a byte that is a hexadecimal digit of either case. -/
def hexValue? (byte : UInt8) : Option Nat :=
  Hex.digitValue? (Char.ofNat byte.toNat)

/-- The byte that two hexadecimal digits write. -/
def pairValue? (high low : UInt8) : Option UInt8 :=
  (hexValue? high).bind fun h => (hexValue? low).map fun l => UInt8.ofNat (16 * h + l)

/-- Replaces every `%` with two hexadecimal digits by the byte they write. -/
def decodeBytes : List UInt8 → List UInt8
  | [] => []
  | [byte] => [byte]
  | [byte, high] => [byte, high]
  | byte :: high :: low :: rest =>
    if byte = 0x25 then
      match pairValue? high low with
      | some decoded => decoded :: decodeBytes rest
      | none => byte :: decodeBytes (high :: low :: rest)
    else byte :: decodeBytes (high :: low :: rest)
termination_by bytes => bytes.length

/-- The text with its percent-encoded bytes decoded, or the text itself if the bytes are then no
UTF-8. -/
def decode (text : String) : String :=
  (String.fromUTF8? ⟨(decodeBytes text.toUTF8.data.toList).toArray⟩).getD text

/-- The percent-encoded form of one byte. -/
def encodeByte (byte : UInt8) : List Char :=
  '%' :: Hex.fixed 2 byte.toNat

/-- The text with all its bytes percent-encoded. -/
def encode (text : String) : String :=
  String.ofList (text.toUTF8.data.toList.flatMap encodeByte)

end DocumentApi.Text.Percent
