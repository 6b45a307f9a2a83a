import DocumentApi.Unicode.BinaryProperty
import DocumentApi.Unicode.GeneralCategory

/-!
# Texts in quotes

The form in which a message shows a text that may hold anything: in quotes, with an escape for every
character that would not be seen as itself.
-/

namespace DocumentApi.Text.Quoted

/-- The categories whose characters are not seen. -/
def hiddenCategories : List CharTable :=
  [Unicode.GeneralCategory.control, Unicode.GeneralCategory.format,
    Unicode.GeneralCategory.privateUse, Unicode.GeneralCategory.unassigned,
    Unicode.GeneralCategory.lineSeparator, Unicode.GeneralCategory.paragraphSeparator,
    Unicode.GeneralCategory.spaceSeparator]

/-- Whether a character is seen as itself: it does not attach to the one before it and is of no
hidden category. The blank is the one separator that is seen. -/
def isSeen (c : Char) : Bool :=
  !Unicode.BinaryProperty.graphemeExtend.contains c &&
    (c = ' ' || !hiddenCategories.any (·.contains c))

/-- The form of a character between quotes. -/
def encodeChar (c : Char) : List Char :=
  if c.toNat = 0 then ['\\', '0']
  else if c = '\t' then ['\\', 't']
  else if c = '\r' then ['\\', 'r']
  else if c = '\n' then ['\\', 'n']
  else if c = '"' then ['\\', '"']
  else if c = '\\' then ['\\', '\\']
  else if isSeen c then [c]
  else '\\' :: 'u' :: '{' :: Nat.toDigits 16 c.toNat ++ ['}']

/-- A text in quotes. -/
def quote (text : String) : String :=
  String.ofList ('"' :: text.toList.flatMap encodeChar ++ ['"'])

end DocumentApi.Text.Quoted
