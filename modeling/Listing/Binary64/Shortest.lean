import Listing.Binary64.Basic

/-!
# The shortest decimal that reads back

Every decimal number that lies nearer to a floating-point number than to its neighbours reads back
as that number. Of these decimals the shortest is a multiple of the greatest power of ten that has
a multiple among them; when two of its multiples qualify, the nearer is taken, and there is
a choice only for a number half-way between them. The search goes through the powers of ten from
the greatest to the least, in exact arithmetic.
-/
namespace Listing.Binary64

/-- The decimals that read back as a finite number other than zero, as quotients over one
denominator, with the number itself. -/
structure DecimalInterval where
  /-- The lower end. -/
  low : Nat
  /-- The number. -/
  exact : Nat
  /-- The upper end. -/
  high : Nat
  /-- The common denominator. -/
  unit : Nat
  /-- Whether the ends read back too. -/
  closed : Bool

/-- The decimals that read back as a number. The gap below a power of two is half the gap above
it; ends that lie half-way are read as the neighbour with the even mantissa. -/
def readingBack (x : Binary64) : DecimalInterval :=
  let below := if x.mantissa = fractionWeight ∧ 2 * fractionWeight ≤ x.magnitude then 1 else 2
  let scale := (x.exponent - 2).toNat
  { low := (4 * x.mantissa - below) <<< scale
    exact := (4 * x.mantissa) <<< scale
    high := (4 * x.mantissa + 2) <<< scale
    unit := 1 <<< (2 - x.exponent).toNat
    closed := x.mantissa % 2 == 0 }

/-- Which of two neighbouring multiples is taken for a number half-way between them. -/
inductive Tie where
  /-- The one with the even last digit. -/
  | toEven
  /-- The greater one. -/
  | up
  deriving DecidableEq, Repr

/-- Whether the greater of two neighbouring multiples is taken for a number half-way between them,
by the lesser one. -/
def Tie.takesGreater : Tie → Nat → Bool
  | toEven, lesser => lesser % 2 == 1
  | up, _ => true

/-- A decimal number: a natural number times a power of ten. -/
structure Digits where
  /-- The digits. -/
  digits : Nat
  /-- The exponent of the power of ten. -/
  exponent : Int
  deriving DecidableEq, Repr

/-- Whether a multiple of a power of ten, given as a quotient, reads back. -/
def DecimalInterval.admits (interval : DecimalInterval) (numerator denominator : Nat) : Bool :=
  let value := numerator * interval.unit
  let low := interval.low * denominator
  let high := interval.high * denominator
  if interval.closed then decide (low ≤ value) && decide (value ≤ high)
  else decide (low < value) && decide (value < high)

/-- The multiple of a power of ten that reads back and lies nearest, when there is one. -/
def DecimalInterval.multiple? (interval : DecimalInterval) (tie : Tie) (exponent : Int) :
    Option Digits :=
  let up := Nat.pow 10 exponent.toNat
  let down := Nat.pow 10 (-exponent).toNat
  let digits := interval.exact * down / (interval.unit * up)
  let lower := interval.admits (digits * up) down && digits != 0
  let upper := interval.admits ((digits + 1) * up) down
  let twiceRest := 2 * (interval.exact * down % (interval.unit * up))
  let nearerUpper := decide (interval.unit * up < twiceRest) ||
    (interval.unit * up == twiceRest && tie.takesGreater digits)
  if lower && (!upper || !nearerUpper) then some ⟨digits, exponent⟩
  else if upper then some ⟨digits + 1, exponent⟩
  else none

/-- The powers of ten that are searched, the greatest first. -/
def searchedExponents : List Int := (List.range 640).map fun (index : Nat) => 309 - (index : Int)

/-- The shortest decimal that reads back as a finite number other than zero, without its sign. -/
def shortest (x : Binary64) (tie : Tie) : Digits :=
  (searchedExponents.findSome? (x.readingBack.multiple? tie)).getD ⟨0, 0⟩

end Listing.Binary64
