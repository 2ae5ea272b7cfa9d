import Listing.Text.Numeral
import Listing.Toml.Basic

/-!
# Numbers and moments in TOML

An underscore may stand between any two digits. Integers are written in base ten, or without a sign
in base sixteen, eight or two. A number with a point or an exponent is floating-point; one too large
for the range is refused, but one too far below is negative infinity. Dates must exist in the
calendar.
-/
namespace Listing.Toml

open Text (Reader hexValue numberOf readWord)

/-- Read the digits after a first one. -/
def moreDigits (isDigit : Char → Bool) : Reader (List Char)
  | [] => some ([], [])
  | c :: rest =>
    if isDigit c then (moreDigits isDigit rest).map fun found => (c :: found.1, found.2)
    else if c = '_' then
      if (rest.head?.any isDigit) then moreDigits isDigit rest else none
    else some ([], c :: rest)

/-- Read digits, one at least. -/
def readDigits (isDigit : Char → Bool) : Reader (List Char)
  | [] => none
  | c :: rest =>
    if isDigit c then (moreDigits isDigit rest).map fun found => (c :: found.1, found.2) else none

/-- Read the digits before a point; a zero in front stands alone. -/
def readWhole : Reader (List Char)
  | '0' :: rest => some (['0'], rest)
  | cs => readDigits Char.isDigit cs

/-- Whether a character is a digit in a base of at most sixteen. -/
def isDigitIn (base : Nat) (c : Char) : Bool := (hexValue c).any (· < base)

/-- An integer of the signed 64-bit range. -/
def integerOf (value : Int) : Option Item :=
  if Int64.minValue.toInt ≤ value ∧ value ≤ Int64.maxValue.toInt then some (.integer value)
  else none

/-- Read the digits of an integer in a base. -/
def readInteger (base : Nat) : Reader Item := fun cs => do
  let (digits, rest) ← readDigits (isDigitIn base) cs
  let item ← integerOf (numberOf base digits)
  some (item, rest)

/-- Read a sign, or nothing; the answer is whether it is a minus sign. -/
def readSign : List Char → Bool × List Char
  | '-' :: rest => (true, rest)
  | '+' :: rest => (false, rest)
  | cs => (false, cs)

/-- Read a point and the digits after it, or nothing. -/
def readFraction : Reader (Option (List Char))
  | '.' :: rest => (readDigits Char.isDigit rest).map fun found => (some found.1, found.2)
  | cs => some (none, cs)

/-- Read an exponent, or nothing. -/
def readExponent : Reader (Option Int)
  | [] => some (none, [])
  | c :: rest =>
    if c = 'e' ∨ c = 'E' then
      let (negative, rest) := readSign rest
      (readDigits Char.isDigit rest).map fun (digits, tail) =>
        (some (if negative then -(numberOf 10 digits) else numberOf 10 digits), tail)
    else some (none, c :: rest)

/-- The floating-point number of a sign, digits and an exponent. -/
def floatOf (negative : Bool) (whole fraction : List Char) (exponent : Int) : Option Item :=
  let value := Binary64.ofDecimal negative (numberOf 10 (whole ++ fraction))
    (exponent - fraction.length)
  if value = Binary64.infinity false then none else some (.float value)

/-- Read a number in base ten after its sign. -/
def readDecimal (negative : Bool) : Reader Item := fun cs => do
  let (whole, rest) ← readWhole cs
  let (fraction, rest) ← readFraction rest
  let (exponent, rest) ← readExponent rest
  let item ←
    if fraction.isNone && exponent.isNone then
      let number : Int := numberOf 10 whole
      integerOf (if negative then -number else number)
    else floatOf negative whole (fraction.getD []) (exponent.getD 0)
  some (item, rest)

/-- What is no number. -/
def notANumber (negative : Bool) : Binary64 :=
  Binary64.ofMagnitude negative (Binary64.infinityBits + Binary64.fractionWeight / 2)

/-- Read a number. -/
def readNumber : Reader Item
  | '0' :: 'x' :: rest => readInteger 16 rest
  | '0' :: 'o' :: rest => readInteger 8 rest
  | '0' :: 'b' :: rest => readInteger 2 rest
  | cs =>
    let (negative, rest) := readSign cs
    match readWord ['i', 'n', 'f'] rest, readWord ['n', 'a', 'n'] rest with
    | some (_, tail), _ => some (.float (Binary64.infinity negative), tail)
    | none, some (_, tail) => some (.float (notANumber negative), tail)
    | none, none => readDecimal negative rest

/-- Read a number of so many digits that lies between two bounds. -/
def readField (length least greatest : Nat) : Reader Nat := fun cs =>
  let digits := cs.take length
  let number := numberOf 10 digits
  if digits.length = length ∧ digits.all Char.isDigit ∧ least ≤ number ∧ number ≤ greatest then
    some (number, cs.drop length)
  else none

/-- Whether a year has a leap day. -/
def isLeapYear (year : Nat) : Bool := year % 4 == 0 && (year % 100 != 0 || year % 400 == 0)

/-- The number of days in a month of a year. -/
def daysIn (year month : Nat) : Nat :=
  if month = 2 then if isLeapYear year then 29 else 28
  else if [4, 6, 9, 11].contains month then 30
  else 31

/-- Read a date. -/
def readDate : Reader Unit := fun cs => do
  let (year, rest) ← readField 4 0 9999 cs
  let (_, rest) ← readWord ['-'] rest
  let (month, rest) ← readField 2 1 12 rest
  let (_, rest) ← readWord ['-'] rest
  let (_, rest) ← readField 2 1 (daysIn year month) rest
  some ((), rest)

/-- Read a time of day; a leap second may be the sixtieth. -/
def readTime : Reader Unit := fun cs => do
  let (_, rest) ← readField 2 0 23 cs
  let (_, rest) ← readWord [':'] rest
  let (_, rest) ← readField 2 0 59 rest
  let (_, rest) ← readWord [':'] rest
  let (_, rest) ← readField 2 0 60 rest
  match rest with
  | '.' :: digit :: more =>
    if digit.isDigit then some ((), more.dropWhile Char.isDigit) else some ((), rest)
  | _ => some ((), rest)

/-- The text after an offset from universal time, when there is one. -/
def skipOffset (cs : List Char) : List Char :=
  match cs with
  | 'Z' :: rest | 'z' :: rest => rest
  | sign :: rest =>
    if sign = '+' ∨ sign = '-' then
      let offset := do
        let (_, rest) ← readField 2 0 23 rest
        let (_, rest) ← readWord [':'] rest
        let (_, rest) ← readField 2 0 59 rest
        some rest
      offset.getD cs
    else cs
  | [] => []

/-- Read a date, a time, or a date and a time with an optional offset. -/
def readMoment : Reader Item := fun cs =>
  match readDate cs with
  | none => (readTime cs).map fun found => (.moment, found.2)
  | some (_, rest) =>
    match rest with
    | mark :: more =>
      if mark = 'T' ∨ mark = 't' ∨ mark = ' ' then
        match readTime more with
        | some (_, tail) => some (.moment, skipOffset tail)
        | none => some (.moment, rest)
      else some (.moment, rest)
    | [] => some (.moment, [])

end Listing.Toml
