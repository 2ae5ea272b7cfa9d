/-!
# Punycode

A part of a domain name that spells characters beyond ASCII holds its ASCII characters, a hyphen
when there are any, and then a list of differences, each of which says which character is inserted
next and where. Differences are numbers of variable length whose digits depend on the differences
before them.
-/
namespace Listing.Url.Punycode

/-- The digit at which a number may end, by its place and the bias. -/
def threshold (place bias : Nat) : Nat :=
  if place ≤ bias then 1 else if bias + 26 ≤ place then 26 else place - bias

/-- Divide a difference until it is small; each division moves the bias by one place. The first
number bounds the divisions. -/
def damp : Nat → Nat → Nat → Nat
  | 0, _, place => place
  | bound + 1, difference, place =>
    if 455 < difference then damp bound (difference / 35) (place + 36)
    else place + 36 * difference / (difference + 38)

/-- The bias after a difference. -/
def biasAfter (difference length : Nat) (first : Bool) : Nat :=
  let reduced := if first then difference / 700 else difference / 2
  damp 16 (reduced + reduced / length) 0

/-- The value of a digit; letters come before the digits `0` to `9`. -/
def digitValue (c : Char) : Option Nat :=
  if 'a' ≤ c ∧ c ≤ 'z' then some (c.toNat - 'a'.toNat)
  else if '0' ≤ c ∧ c ≤ '9' then some (c.toNat - '0'.toNat + 26)
  else none

/-- Read a difference in front of a text: the digits from a place on, each with its weight, added
to the number that the digits before them make. -/
def readDifference (bias : Nat) : Nat → Nat → Nat → List Char → Option (Nat × List Char)
  | _, _, _, [] => none
  | place, weight, number, c :: rest => do
    let digit ← digitValue c
    let number := number + digit * weight
    if UInt32.size ≤ number then none
    else if digit < threshold place bias then some (number, rest)
    else readDifference bias (place + 36) (weight * (36 - threshold place bias)) number rest

/-- Carry out the insertions that a text spells. The first number bounds them. -/
def insertions : Nat → List Char → Nat → Nat → Nat → List Char → Option (List Char)
  | _, chars, _, _, _, [] => some chars
  | 0, _, _, _, _, _ => none
  | bound + 1, chars, code, place, bias, cs => do
    let (difference, rest) ← readDifference bias 36 1 0 cs
    let length := chars.length + 1
    let code := code + (place + difference) / length
    let index := (place + difference) % length
    if h : code.isValidChar then
      insertions bound (chars.take index ++ Char.ofNatAux code h :: chars.drop index) code
        (index + 1) (biasAfter difference length (place == 0)) rest
    else none

/-- The characters that a part of a name spells after its mark. -/
def decode (spelling : List Char) : Option (List Char) :=
  let reversed := spelling.reverse
  let tail := (reversed.takeWhile (· != '-')).reverse
  let kept := ((reversed.dropWhile (· != '-')).drop 1).reverse
  if kept.isEmpty then insertions spelling.length [] 128 0 72 spelling
  else insertions tail.length kept 128 0 72 tail

end Listing.Url.Punycode
