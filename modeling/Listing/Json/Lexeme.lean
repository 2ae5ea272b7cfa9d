import Listing.Json.Basic
import Listing.Text.Numeral

/-!
# Words of JSON text

Numbers and texts as a JSON document spells them, and what the spellings mean. A number is first
split into its digits and then valued; a text is first split into characters and code units and
then joined, because a character beyond the sixteen-bit range is spelled as two code units that
are worth something only together.
-/
namespace Listing.Json

open Text (Reader hexValue readWord)

/-- Whether a character may stand between words. -/
def isSpace (c : Char) : Bool := c == ' ' || c == '\n' || c == '\r' || c == '\t'

/-- The text after the space in front of it. -/
def skipSpace (cs : List Char) : List Char := cs.dropWhile isSpace

/-- The digits in front of a text. -/
def digits (cs : List Char) : List Nat × List Char :=
  ((cs.takeWhile Char.isDigit).map (fun c => c.toNat - '0'.toNat), cs.dropWhile Char.isDigit)

/-- The digits in front of a text, of which there must be one at least. -/
def readDigits : Reader (List Nat) := fun cs =>
  match digits cs with
  | ([], _) => none
  | found => some found

/-- The parts of a number as it is spelled. -/
structure NumberLexeme where
  /-- Whether a minus sign stands in front. -/
  negative : Bool
  /-- The digits before the point. -/
  whole : List Nat
  /-- The digits after the point; none, when there is no point. -/
  fraction : List Nat
  /-- The sign and the digits of the exponent, when there is one. -/
  exponent : Option (Bool × List Nat)

/-- Read the digits before the point; a zero in front stands alone. -/
def readWhole : Reader (List Nat) := fun cs =>
  match readDigits cs with
  | some (0 :: _ :: _, _) => none
  | other => other

/-- Read a point and the digits after it, or nothing. -/
def readFraction : Reader (List Nat)
  | '.' :: rest => readDigits rest
  | cs => some ([], cs)

/-- Read an exponent, or nothing. -/
def readExponent : Reader (Option (Bool × List Nat))
  | c :: rest =>
    if c = 'e' ∨ c = 'E' then
      match rest with
      | '+' :: more => (readDigits more).map fun (found, tail) => (some (false, found), tail)
      | '-' :: more => (readDigits more).map fun (found, tail) => (some (true, found), tail)
      | more => (readDigits more).map fun (found, tail) => (some (false, found), tail)
    else some (none, c :: rest)
  | [] => some (none, [])

/-- Read the spelling of a number. -/
def readNumber : Reader NumberLexeme := fun cs => do
  let (negative, rest) := match cs with
    | '-' :: rest => (true, rest)
    | rest => (false, rest)
  let (whole, rest) ← readWhole rest
  let (fraction, rest) ← readFraction rest
  let (exponent, rest) ← readExponent rest
  some (⟨negative, whole, fraction, exponent⟩, rest)

/-- Append digits to a number as long as it stays an unsigned 64-bit integer, and return the digits
that are left from the first one that does not fit. -/
def accumulate : Nat → List Nat → Nat × List Nat
  | number, [] => (number, [])
  | number, digit :: rest =>
    if number * 10 + digit < UInt64.size then accumulate (number * 10 + digit) rest
    else (number, digit :: rest)

/-- The number that digits spell, however many. -/
def naturalOf (digits : List Nat) : Nat := digits.foldl (fun number digit => number * 10 + digit) 0

/-- Scale a number by a power of ten: the power is rounded on its own, then the product or the
quotient. Powers beyond the range are applied in steps; a result beyond the range is refused. -/
def scale : Nat → Binary64 → Int → Option Binary64
  | 0, x, _ => some x
  | steps + 1, x, exponent =>
    if exponent.natAbs ≤ 308 then
      let power := Binary64.ofDecimal false 1 exponent.natAbs
      if 0 ≤ exponent then
        let product := x.times power
        if product.isInfinite then none else some product
      else some (x.dividedBy power)
    else if x.isZero then some x
    else if 0 ≤ exponent then none
    else scale steps (x.dividedBy (Binary64.ofDecimal false 1 308)) (exponent + 308)

/-- The floating-point number of a significand and a power of ten. -/
def floatOf (negative : Bool) (significand : Nat) (exponent : Int) : Option Json :=
  (scale 4 (Binary64.ofNat significand) exponent).map fun x =>
    .float (if negative then x.negate else x)

/-- The greatest exponent that is applied; a greater one decides the answer by itself. -/
def greatestExponent : Nat := 2147483647

/-- The value of a number that is spelled with more digits than fit, a point or an exponent. The
digits that do not fit count by their number alone. -/
def NumberLexeme.inexact (lexeme : NumberLexeme) (number : Nat) (left : List Nat) : Option Json :=
  let (significand, unread) := accumulate number lexeme.fraction
  let places : Int := (left.length : Int) - (lexeme.fraction.length - unread.length : Nat)
  match lexeme.exponent with
  | none => floatOf lexeme.negative significand places
  | some (below, found) =>
    let power := naturalOf found
    if greatestExponent < power then
      if significand ≠ 0 ∧ ¬below then none else some (.float (.zero lexeme.negative))
    else floatOf lexeme.negative significand (if below then places - power else places + power)

/-- The value of a number. A whole number of the 64-bit ranges stays whole; negative zero and whole
numbers beyond the ranges become floating-point numbers. -/
def NumberLexeme.value (lexeme : NumberLexeme) : Option Json :=
  match accumulate 0 lexeme.whole, lexeme.fraction, lexeme.exponent with
  | (number, []), [], none =>
    if ¬lexeme.negative then some (.int number)
    else if number = 0 ∨ Int64.minValue.toInt.natAbs < number then
      some (.float (Binary64.ofNat number).negate)
    else some (.int (-number))
  | (number, left), _, _ => lexeme.inexact number left

/-- A character of a text as it is spelled: itself, or by a code unit. -/
inductive TextPiece where
  /-- A character. -/
  | char (c : Char)
  /-- A code unit of sixteen bits, spelled in four hexadecimal digits. -/
  | unit (code : Nat)

/-- The character of a short escape. -/
def shortEscape (c : Char) : Option Char :=
  if c = '\x22' ∨ c = '\\' ∨ c = '/' then some c
  else if c = 'b' then some '\x08'
  else if c = 'f' then some '\x0c'
  else if c = 'n' then some '\n'
  else if c = 'r' then some '\r'
  else if c = 't' then some '\t'
  else none

/-- Read the rest of a text after its opening quote. -/
def textPieces : List Char → Option (List TextPiece × List Char)
  | [] => none
  | c :: rest =>
    if c = '\x22' then some ([], rest)
    else if c = '\\' then
      match rest with
      | 'u' :: a :: b :: d :: e :: more => do
        let code := (← hexValue a) * 4096 + (← hexValue b) * 256 + (← hexValue d) * 16
          + (← hexValue e)
        let (found, tail) ← textPieces more
        some (.unit code :: found, tail)
      | escape :: more => do
        let named ← shortEscape escape
        let (found, tail) ← textPieces more
        some (.char named :: found, tail)
      | [] => none
    else if c.toNat < 0x20 then none
    else do
      let (found, tail) ← textPieces rest
      some (.char c :: found, tail)

/-- The characters of a text; half of a pair of code units alone is refused. -/
def joinPieces : List TextPiece → Option (List Char)
  | [] => some []
  | .char c :: rest => (joinPieces rest).map (c :: ·)
  | .unit high :: rest =>
    if 0xDC00 ≤ high ∧ high ≤ 0xDFFF then none
    else if 0xD800 ≤ high ∧ high ≤ 0xDBFF then
      match rest with
      | .unit low :: more =>
        if 0xDC00 ≤ low ∧ low ≤ 0xDFFF then
          (joinPieces more).map
            (Char.ofNat (0x10000 + (high - 0xD800) * 0x400 + (low - 0xDC00)) :: ·)
        else none
      | _ => none
    else (joinPieces rest).map (Char.ofNat high :: ·)

/-- Read a text with its quotes. -/
def readText : Reader String
  | '\x22' :: rest => do
    let (found, tail) ← textPieces rest
    let chars ← joinPieces found
    some (String.ofList chars, tail)
  | _ => none

end Listing.Json
