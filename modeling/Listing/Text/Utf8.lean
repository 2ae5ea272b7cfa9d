/-!
# Characters as bytes, and bytes repaired to characters

Every character has one encoding of one to four bytes. The reading direction accepts every byte
list: each longest run of bytes that begins an encoding but does not complete one, and each byte
that begins none, is read as the replacement character U+FFFD.
-/
namespace Listing.Text

/-- The bytes of a text. -/
def utf8 (text : String) : List UInt8 := text.toList.flatMap String.utf8EncodeChar

/-- The character that stands for bytes that are no encoding. -/
def replacement : Char := '\uFFFD'

/-- What has been read of an encoding that is not complete. -/
structure Unfinished where
  /-- The bits read so far. -/
  bits : Nat
  /-- The number of bytes still to come. -/
  missing : Nat
  /-- The least byte that may come next. -/
  least : UInt8
  /-- The greatest byte that may come next. -/
  greatest : UInt8
  deriving DecidableEq, Repr

/-- Begin with a byte: a character, an encoding to be continued, or neither. -/
def beginEncoding (byte : UInt8) : List Char × Option Unfinished :=
  if byte ≤ 0x7F then ([Char.ofNat byte.toNat], none)
  else if 0xC2 ≤ byte ∧ byte ≤ 0xDF then ([], some ⟨byte.toNat - 0xC0, 1, 0x80, 0xBF⟩)
  else if byte = 0xE0 then ([], some ⟨0, 2, 0xA0, 0xBF⟩)
  else if byte = 0xED then ([], some ⟨0xD, 2, 0x80, 0x9F⟩)
  else if 0xE1 ≤ byte ∧ byte ≤ 0xEF then ([], some ⟨byte.toNat - 0xE0, 2, 0x80, 0xBF⟩)
  else if byte = 0xF0 then ([], some ⟨0, 3, 0x90, 0xBF⟩)
  else if 0xF1 ≤ byte ∧ byte ≤ 0xF3 then ([], some ⟨byte.toNat - 0xF0, 3, 0x80, 0xBF⟩)
  else if byte = 0xF4 then ([], some ⟨4, 3, 0x80, 0x8F⟩)
  else ([replacement], none)

/-- Continue an encoding. A byte that does not fit ends it unfinished and begins anew. -/
def continueEncoding (state : Unfinished) (byte : UInt8) : List Char × Option Unfinished :=
  if state.least ≤ byte ∧ byte ≤ state.greatest then
    let bits := state.bits * 64 + (byte.toNat - 0x80)
    if state.missing ≤ 1 then ([Char.ofNat bits], none)
    else ([], some ⟨bits, state.missing - 1, 0x80, 0xBF⟩)
  else
    let (read, next) := beginEncoding byte
    (replacement :: read, next)

/-- Read bytes after an encoding begun or none. -/
def repairFrom : Option Unfinished → List UInt8 → List Char
  | none, [] => []
  | some _, [] => [replacement]
  | none, byte :: rest =>
    let (read, next) := beginEncoding byte
    read ++ repairFrom next rest
  | some state, byte :: rest =>
    let (read, next) := continueEncoding state byte
    read ++ repairFrom next rest

/-- The characters of a byte list, with U+FFFD in place of what is no encoding. -/
def repair (bytes : List UInt8) : String := String.ofList (repairFrom none bytes)

end Listing.Text
