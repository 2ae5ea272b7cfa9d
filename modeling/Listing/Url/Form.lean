import Listing.Text.Split
import Listing.Text.Utf8

/-!
# Form-encoded queries

A query is a list of pieces between ampersands, each a name and a value with an equals sign
between them. In both a plus sign stands for a space, and a percent sign with two hexadecimal
digits for a byte; a percent sign without them stands for itself. Bytes are read as characters
last, so characters may be spelled byte by byte.
-/
namespace Listing.Url

/-- The byte of a character of ASCII. -/
def byteOf (c : Char) : UInt8 := UInt8.ofNat c.toNat

/-- The value of a hexadecimal digit. -/
def hexDigitValue (byte : UInt8) : Option UInt8 :=
  if 0x30 ≤ byte ∧ byte ≤ 0x39 then some (byte - 0x30)
  else if 0x41 ≤ byte ∧ byte ≤ 0x46 then some (byte - 0x41 + 10)
  else if 0x61 ≤ byte ∧ byte ≤ 0x66 then some (byte - 0x61 + 10)
  else none

/-- The byte that two characters after a percent sign spell. -/
def escapedByte (high low : UInt8) : Option UInt8 :=
  match hexDigitValue high, hexDigitValue low with
  | some high, some low => some (high * 16 + low)
  | _, _ => none

/-- The byte of the hexadecimal digit of a value below sixteen. -/
def hexDigit (value : UInt8) : UInt8 :=
  if value < 10 then byteOf '0' + value else byteOf 'A' + (value - 10)

/-- The percent escape of a byte. -/
def escape (byte : UInt8) : List UInt8 := [byteOf '%', hexDigit (byte / 16), hexDigit (byte % 16)]

/-- Replace percent escapes by their bytes. -/
def percentDecode : List UInt8 → List UInt8
  | [] => []
  | byte :: rest =>
    if byte = byteOf '%' then
      match rest with
      | high :: low :: more =>
        match escapedByte high low with
        | some decoded => decoded :: percentDecode more
        | none => byte :: percentDecode (high :: low :: more)
      | few => byte :: percentDecode few
    else byte :: percentDecode rest

/-- The text that a name or a value spells. -/
def decodeComponent (bytes : List UInt8) : String :=
  Text.repair (percentDecode
    (bytes.map fun byte => if byte = byteOf '+' then byteOf ' ' else byte))

/-- The name and the value of a piece; a piece without an equals sign is a name. -/
def decodePiece (piece : List UInt8) : String × String :=
  match Text.cut (byteOf '=') piece with
  | some (name, value) => (decodeComponent name, decodeComponent value)
  | none => (decodeComponent piece, "")

/-- The names and values of a query, in order; empty pieces have none. -/
def parseForm (query : List UInt8) : List (String × String) :=
  ((query.splitOn (byteOf '&')).filter fun piece => !piece.isEmpty).map decodePiece

end Listing.Url
