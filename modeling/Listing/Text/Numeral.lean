/-!
# Readers and numerals

A reader takes a value from the front of a text and returns it with the text that follows, or
refuses the text; the readers of the document formats are built on the ones here. A numeral is a
whole text: an optional sign and at least one of the digits `0` to `9`. It is read from the left
and the first thing that is wrong is reported: a character that is no digit, or the digit at which
the number leaves its range.
-/
namespace Listing.Text

/-! ## Readers -/

/-- A reader of a value in front of a text returns the value and the text after it. -/
abbrev Reader (α : Type) := List Char → Option (α × List Char)

/-- Read a fixed word. -/
def readWord (letters : List Char) : Reader Unit := fun cs =>
  if letters.isPrefixOf cs then some ((), cs.drop letters.length) else none

/-- The value of a hexadecimal digit. -/
def hexValue (c : Char) : Option Nat :=
  if c.isDigit then some (c.toNat - '0'.toNat)
  else if 'a' ≤ c ∧ c ≤ 'f' then some (c.toNat - 'a'.toNat + 10)
  else if 'A' ≤ c ∧ c ≤ 'F' then some (c.toNat - 'A'.toNat + 10)
  else none

/-- The number that digits spell in a base. -/
def numberOf (base : Nat) (digits : List Char) : Nat :=
  digits.foldl (fun number c => number * base + (hexValue c).getD 0) 0

/-! ## Decimal integers of a fixed range -/

/-- Why a text is no numeral of the range asked for. -/
inductive NumeralFault where
  /-- The text is empty. -/
  | empty
  /-- A character is not a digit, or there is a sign alone. -/
  | invalidDigit
  /-- The number lies above the range. -/
  | tooLarge
  /-- The number lies below the range. -/
  | tooSmall
  deriving DecidableEq, Repr

/-- The wording of a fault. -/
def NumeralFault.message : NumeralFault → String
  | .empty => "cannot parse integer from empty string"
  | .invalidDigit => "invalid digit found in string"
  | .tooLarge => "number too large to fit in target type"
  | .tooSmall => "number too small to fit in target type"

/-- The value of a decimal digit. -/
def digitValue (c : Char) : Option Nat :=
  if '0' ≤ c ∧ c ≤ '9' then some (c.toNat - '0'.toNat) else none

/-- Read digits after a number already read, up to a greatest magnitude. -/
def readDigits (limit : Nat) (beyond : NumeralFault) : Nat → List Char → Except NumeralFault Nat
  | number, [] => .ok number
  | number, c :: rest =>
    match digitValue c with
    | none => .error .invalidDigit
    | some digit =>
      if number * 10 + digit ≤ limit then readDigits limit beyond (number * 10 + digit) rest
      else .error beyond

/-- Read an unsigned numeral; a plus sign may stand in front, a minus sign may not. -/
def readUnsigned (limit : Nat) : List Char → Except NumeralFault Nat
  | [] => .error .empty
  | ['+'] => .error .invalidDigit
  | c :: rest =>
    if c = '+' then readDigits limit .tooLarge 0 rest
    else readDigits limit .tooLarge 0 (c :: rest)

/-- Read a signed numeral with at most one sign in front. -/
def readSigned (least greatest : Nat) : List Char → Except NumeralFault Int
  | [] => .error .empty
  | [c] =>
    if c = '+' ∨ c = '-' then .error .invalidDigit
    else (readDigits greatest .tooLarge 0 [c]).map Int.ofNat
  | c :: rest =>
    if c = '+' then (readDigits greatest .tooLarge 0 rest).map Int.ofNat
    else if c = '-' then (readDigits least .tooSmall 0 rest).map fun number => -(number : Int)
    else (readDigits greatest .tooLarge 0 (c :: rest)).map Int.ofNat

/-- Read a numeral of the unsigned 64-bit range. -/
def readUInt64 (cs : List Char) : Except NumeralFault UInt64 :=
  (readUnsigned (UInt64.size - 1) cs).map UInt64.ofNat

/-- Read a numeral of the signed 64-bit range. -/
def readInt64 (cs : List Char) : Except NumeralFault Int64 :=
  (readSigned Int64.minValue.toInt.natAbs Int64.maxValue.toInt.natAbs cs).map Int64.ofInt

end Listing.Text
