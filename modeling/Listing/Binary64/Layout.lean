import Listing.Binary64.Shortest

/-!
# Ways to write a floating-point number

A layout says how the digits of a number are chosen and set: which of two equally near decimals is
taken, which exponents are written positionally, whether a whole number keeps a fraction, and what
stands for infinity and for what is no number.
Two layouts are used: the plain one for text and the one of JSON documents.
-/
namespace Listing.Binary64

/-- The decisions that turn digits into text. -/
structure Layout where
  /-- Which of two equally near decimals is taken. -/
  tie : Tie
  /-- The exponents of the leading digit that are written positionally; all, when absent. -/
  positional : Option (Int × Int)
  /-- Whether a whole number in positional form ends in `.0`. -/
  keepsFraction : Bool
  /-- The text of positive infinity. -/
  infinity : String
  /-- The text of negative infinity. -/
  negativeInfinity : String
  /-- The text of what is no number. -/
  notANumber : String

/-- Text: the greater of two equally near decimals, positional at every size, whole numbers without
a fraction. -/
def Layout.plain : Layout where
  tie := .up
  positional := none
  keepsFraction := false
  infinity := "inf"
  negativeInfinity := "-inf"
  notANumber := "NaN"

/-- JSON: the even one of two equally near decimals, positional from 0.00001 to below ten to the
sixteenth, whole numbers with `.0`, and `null` for what JSON numbers cannot express. -/
def Layout.json : Layout where
  tie := .toEven
  positional := some (-5, 15)
  keepsFraction := true
  infinity := "null"
  negativeInfinity := "null"
  notANumber := "null"

/-- The digits of a natural number. -/
def digitChars (n : Nat) : List Char := Nat.toDigits 10 n

/-- The exponent of the leading digit of a decimal. -/
def Digits.leading (decimal : Digits) : Int :=
  (digitChars decimal.digits).length + decimal.exponent - 1

/-- A decimal written out, with a point where its exponent puts it. -/
def Digits.positional (decimal : Digits) (keepsFraction : Bool) : List Char :=
  let chars := digitChars decimal.digits
  if 0 ≤ decimal.exponent then
    chars ++ List.replicate decimal.exponent.toNat '0' ++ if keepsFraction then ['.', '0'] else []
  else if decimal.leading < 0 then
    ['0', '.'] ++ List.replicate (-1 - decimal.leading).toNat '0' ++ chars
  else
    let whole := decimal.leading.toNat + 1
    chars.take whole ++ '.' :: chars.drop whole

/-- A decimal with one digit before the point and a signed exponent. -/
def Digits.scientific (decimal : Digits) : List Char :=
  let sign := if decimal.leading < 0 then '-' else '+'
  let power := 'e' :: sign :: digitChars decimal.leading.natAbs
  match digitChars decimal.digits with
  | [] => power
  | [digit] => digit :: power
  | digit :: rest => digit :: '.' :: rest ++ power

/-- The text of a number in a layout. -/
def write (layout : Layout) (x : Binary64) : String :=
  if x.isNaN then layout.notANumber
  else if x.isInfinite then
    if x.isNegative then layout.negativeInfinity else layout.infinity
  else
    let sign := if x.isNegative then ['-'] else []
    let decimal := if x.isZero then ⟨0, 0⟩ else x.shortest layout.tie
    let within :=
      match layout.positional with
      | none => true
      | some (least, greatest) =>
        x.isZero || (decide (least ≤ decimal.leading) && decide (decimal.leading ≤ greatest))
    let chars :=
      if within then decimal.positional layout.keepsFraction else decimal.scientific
    String.ofList (sign ++ chars)

end Listing.Binary64
