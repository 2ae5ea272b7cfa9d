/-!
# Binary floating-point numbers of 64 bits

A number is the word that stores it: a sign bit, eleven bits of exponent and fifty-two bits of
fraction. A finite number is a natural number times a power of two, which `mantissa` and
`exponent` give exactly, so every operation here is natural-number arithmetic followed by one
rounding, to the nearest number and, of two that are equally near, to the one with the even
mantissa.
-/
namespace Listing

/-- A binary floating-point number, as the word that stores it. -/
structure Binary64 where
  /-- Sign, exponent and fraction, from the highest bit to the lowest. -/
  bits : UInt64
  deriving DecidableEq, Repr, Inhabited

namespace Binary64

/-- The weight of the sign bit. -/
def signWeight : Nat := 0x8000000000000000

/-- The weight of the lowest exponent bit. -/
def fractionWeight : Nat := 0x10000000000000

/-- The word of positive infinity. -/
def infinityBits : Nat := 0x7FF * fractionWeight

/-- Whether the sign bit is set. -/
def isNegative (x : Binary64) : Bool := decide (signWeight ≤ x.bits.toNat)

/-- The word without its sign bit. -/
def magnitude (x : Binary64) : Nat := x.bits.toNat % signWeight

/-- Whether the word stands for no number. -/
def isNaN (x : Binary64) : Bool := decide (infinityBits < x.magnitude)

/-- Whether the number is positive or negative infinity. -/
def isInfinite (x : Binary64) : Bool := x.magnitude == infinityBits

/-- Whether the number is zero, of either sign. -/
def isZero (x : Binary64) : Bool := x.magnitude == 0

/-- The natural number whose product with a power of two is the number without its sign. -/
def mantissa (x : Binary64) : Nat :=
  if x.magnitude < fractionWeight then x.magnitude
  else x.magnitude % fractionWeight + fractionWeight

/-- The exponent of the power of two. -/
def exponent (x : Binary64) : Int :=
  (Nat.max (x.magnitude / fractionWeight) 1 : Nat) - 1075

/-- The number with a sign and a word that has none. -/
def ofMagnitude (negative : Bool) (magnitude : Nat) : Binary64 :=
  ⟨UInt64.ofNat (magnitude + if negative then signWeight else 0)⟩

/-- Zero of a sign. -/
def zero (negative : Bool) : Binary64 := ofMagnitude negative 0

/-- Infinity of a sign. -/
def infinity (negative : Bool) : Binary64 := ofMagnitude negative infinityBits

/-- The number with the other sign. -/
def negate (x : Binary64) : Binary64 := ofMagnitude (!x.isNegative) x.magnitude

/-- Equality of numbers: zero equals zero of either sign, and what is no number equals nothing. -/
def equals (x y : Binary64) : Bool :=
  !x.isNaN && !y.isNaN && (x == y || (x.isZero && y.isZero))

/-- A quotient rounded to the nearest natural number, half-way cases to the even one. -/
def roundQuotient (numerator denominator : Nat) : Nat :=
  let quotient := numerator / denominator
  let twice := 2 * (numerator % denominator)
  if twice < denominator then quotient
  else if denominator < twice then quotient + 1
  else quotient + quotient % 2

/-- The exponent of the greatest power of two that is at most a positive quotient. -/
def logQuotient (numerator denominator : Nat) : Int :=
  let guess : Int := (numerator.log2 : Int) - denominator.log2
  let reached :=
    if 0 ≤ guess then decide (denominator <<< guess.toNat ≤ numerator)
    else decide (denominator ≤ numerator <<< (-guess).toNat)
  if reached then guess else guess - 1

/-- The number nearest to a quotient of natural numbers; a number too large is infinity. -/
def ofQuotient (negative : Bool) (numerator denominator : Nat) : Binary64 :=
  if numerator = 0 then zero negative
  else
    let unit : Int := max (logQuotient numerator denominator - 52) (-1074)
    let mantissa :=
      if 0 ≤ unit then roundQuotient numerator (denominator <<< unit.toNat)
      else roundQuotient (numerator <<< (-unit).toNat) denominator
    let magnitude := (unit + 1074).toNat * fractionWeight + mantissa
    if magnitude < infinityBits then ofMagnitude negative magnitude else infinity negative

/-- The number nearest to a natural number. -/
def ofNat (n : Nat) : Binary64 := ofQuotient false n 1

/-- The number nearest to a decimal number, given by its digits as a natural number and the
exponent of the power of ten. Exponents far outside the range decide the answer by themselves. -/
def ofDecimal (negative : Bool) (digits : Nat) (exponent : Int) : Binary64 :=
  let leading : Int := (Nat.toDigits 10 digits).length + exponent
  if digits = 0 then zero negative
  else if 310 < leading then infinity negative
  else if leading < -330 then zero negative
  else if 0 ≤ exponent then ofQuotient negative (digits * Nat.pow 10 exponent.toNat) 1
  else ofQuotient negative digits (Nat.pow 10 (-exponent).toNat)

/-- The product of two finite numbers, rounded. -/
def times (x y : Binary64) : Binary64 :=
  let unit := x.exponent + y.exponent
  let product := x.mantissa * y.mantissa
  let negative := x.isNegative != y.isNegative
  if 0 ≤ unit then ofQuotient negative (product <<< unit.toNat) 1
  else ofQuotient negative product (1 <<< (-unit).toNat)

/-- The quotient of a finite number and a finite number other than zero, rounded. -/
def dividedBy (x y : Binary64) : Binary64 :=
  let unit := x.exponent - y.exponent
  let negative := x.isNegative != y.isNegative
  if 0 ≤ unit then ofQuotient negative (x.mantissa <<< unit.toNat) y.mantissa
  else ofQuotient negative x.mantissa (y.mantissa <<< (-unit).toNat)

end Binary64

end Listing
