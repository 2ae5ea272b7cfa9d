import Listing.Text.PrintTable

/-!
# Texts in double quotes

A text is shown between double quotes, with an escape for each character that would end the
quotes, that has no shape of its own, or that takes its shape from the character before it.
-/
namespace Listing.Text

/-- Whether a character takes its shape from the character before it. The two halfwidth sound marks
combine as well, but fill a cell of their own. -/
def isCombining (c : Char) : Bool :=
  within combiningRanges c && c != '\uFF9E' && c != '\uFF9F'

/-- Whether a character has no shape of its own. -/
def isShapeless (c : Char) : Bool :=
  if c.toNat < 0x80 then c.toNat < 0x20 || c.toNat == 0x7F else within shapelessRanges c

/-- The escape that names a character by its code point in hexadecimal digits. -/
def codeEscape (c : Char) : List Char :=
  "\\u\x7b".toList ++ Nat.toDigits 16 c.toNat ++ ['\x7d']

/-- How a character is shown between double quotes. -/
def showChar (c : Char) : List Char :=
  if c = '\x00' then ['\\', '0']
  else if c = '\t' then ['\\', 't']
  else if c = '\n' then ['\\', 'n']
  else if c = '\r' then ['\\', 'r']
  else if c = '\\' then ['\\', '\\']
  else if c = '\x22' then ['\\', '\x22']
  else if isCombining c || isShapeless c then codeEscape c
  else [c]

/-- A text between double quotes. -/
def quoted (text : String) : String :=
  String.ofList ('\x22' :: text.toList.flatMap showChar ++ ['\x22'])

/-- A list of texts, each between double quotes. -/
def quotedList (texts : List String) : String :=
  "[" ++ ", ".intercalate (texts.map quoted) ++ "]"

end Listing.Text
