import Listing.Proofs.Entries
import Mathlib.Algebra.Ring.Nat
import Mathlib.Data.List.Basic

/-!
# Numerals that read back

A number that is written in decimal digits is read back as long as it lies in the range that is
asked for, and refused as too large beyond it; zeros in front of it make no difference. Main
statements: `readDigits_eq` for a range with any greatest number, `Decimal.readInt64_eq` for the
signed 64-bit range, and `intOr_insert_decimal` for a parameter whose text is a number in digits.
-/
namespace Listing

namespace Text

/-- A decimal digit has the value that its place among the digits says. -/
theorem digitValue_of_isDigit {c : Char} (digit : c.isDigit) :
    digitValue c = some (c.toNat - '0'.toNat) := by
  have bounds : '0' ≤ c ∧ c ≤ '9' := by
    simpa [Char.isDigit, Char.le_def] using digit
  rw [digitValue, if_pos bounds]

/-- A number does not become smaller when more digits are read. -/
theorem le_ofDigitChars (digits : List Char) (number : Nat) :
    number ≤ Nat.ofDigitChars 10 digits number := by
  rw [Nat.ofDigitChars_eq_ofDigitChars_zero]
  have scaled : number ≤ 10 ^ digits.length * number :=
    Nat.le_mul_of_pos_left number (Nat.pow_pos (by decide))
  omega

/-- Digits are read as the number that they spell, unless it exceeds the greatest. -/
theorem readDigits_eq {limit number : Nat} {beyond : NumeralFault} {digits : List Char}
    (decimal : ∀ c ∈ digits, c.isDigit) (small : number ≤ limit) :
    readDigits limit beyond number digits
      = if Nat.ofDigitChars 10 digits number ≤ limit then .ok (Nat.ofDigitChars 10 digits number)
        else .error beyond := by
  induction digits generalizing number with
  | nil => rw [Nat.ofDigitChars_nil, if_pos small, readDigits]
  | cons c rest ih =>
    have next : 10 * number + (c.toNat - '0'.toNat) = number * 10 + (c.toNat - '0'.toNat) := by
      rw [Nat.mul_comm]
    rw [readDigits, digitValue_of_isDigit (decimal c List.mem_cons_self), Nat.ofDigitChars_cons,
      next]
    dsimp only
    by_cases inside : number * 10 + (c.toNat - '0'.toNat) ≤ limit
    · rw [if_pos inside, ih (fun c member => decimal c (List.mem_cons_of_mem _ member)) inside]
    · have grows := le_ofDigitChars rest (number * 10 + (c.toNat - '0'.toNat))
      rw [if_neg inside, if_neg (by omega)]

/-- A number in plain decimal digits, with or without zeros in front. -/
structure Decimal (text : String) (number : Nat) : Prop where
  /-- Every character is a decimal digit. -/
  digits : ∀ c ∈ text.toList, c.isDigit
  /-- There is a digit. -/
  nonempty : text.toList ≠ []
  /-- The digits spell the number. -/
  value : Nat.ofDigitChars 10 text.toList 0 = number

/-- The digits in which a number is written are decimal digits that spell it. -/
theorem decimal_toString (number : Nat) : Decimal (toString number) number where
  digits c member := by
    refine Nat.isDigit_of_mem_toDigits (b := 10) (n := number) (by decide) (by decide) ?_
    simpa using member
  nonempty := by simp
  value := by simp

/-- A numeral that begins with a digit has no sign. -/
theorem readSigned_of_isDigit {least greatest : Nat} {c : Char} {rest : List Char}
    (digit : c.isDigit) :
    readSigned least greatest (c :: rest)
      = (readDigits greatest .tooLarge 0 (c :: rest)).map Int.ofNat := by
  have plus : c ≠ '+' := by
    rintro rfl
    contradiction
  have minus : c ≠ '-' := by
    rintro rfl
    contradiction
  cases rest with
  | nil => rw [readSigned, if_neg (by simp [plus, minus])]
  | cons second more =>
    rw [readSigned, if_neg plus, if_neg minus]
    simp

/-- A number in decimal digits is read as an integer of the signed 64-bit range, unless it lies
above the range. -/
theorem Decimal.readInt64_eq {text : String} {number : Nat} (decimal : Decimal text number) :
    readInt64 text.toList
      = if number < 2 ^ 63 then .ok (Int64.ofNat number) else .error .tooLarge := by
  have greatest : Int64.maxValue.toInt.natAbs = 2 ^ 63 - 1 := by decide
  have digits : readDigits (2 ^ 63 - 1) .tooLarge 0 text.toList = _ :=
    readDigits_eq decimal.digits (Nat.zero_le _)
  rw [decimal.value] at digits
  rw [readInt64, greatest]
  cases spelled : text.toList with
  | nil => exact absurd spelled decimal.nonempty
  | cons c rest =>
    have digit := decimal.digits c (spelled ▸ List.mem_cons_self)
    rw [spelled] at digits
    rw [readSigned_of_isDigit digit, digits]
    by_cases small : number < 2 ^ 63
    · rw [if_pos (by omega), if_pos small]
      exact congrArg Except.ok Int64.ofInt_eq_ofNat
    · rw [if_neg (by omega), if_neg small]
      rfl

/-- A text without white space keeps all its characters when it is trimmed. -/
theorem trim_of_not_blank {text : List Char} (visible : ∀ c ∈ text, isBlank c = false) :
    trim text = text :=
  trim_of_tight ⟨fun c member => visible c (List.mem_of_head? member),
    fun c member => visible c (List.mem_of_getLast? member)⟩

/-- A decimal digit is not white space. -/
theorem not_isBlank_of_isDigit {c : Char} (digit : c.isDigit) : isBlank c = false := by
  have bounds : 48 ≤ c.toNat ∧ c.toNat ≤ 57 := by
    simpa [Char.isDigit, UInt32.le_iff_toNat_le] using digit
  rw [Bool.eq_false_iff, isBlank, Ne, within_iff]
  simp only [blankRanges, List.mem_cons, List.not_mem_nil, or_false, not_exists, not_and]
  rintro range (rfl | rfl | rfl | rfl | rfl | rfl | rfl | rfl | rfl | rfl) <;> omega

end Text

namespace Params

/-- A parameter whose text is a number in decimal digits holds the number, unless it lies above the
signed 64-bit range. -/
theorem intOr_insert_decimal (params : Params) (name : String) {text : String} {number : Nat}
    (decimal : Text.Decimal text number) (default : Int64) :
    (params.insert name text).intOr name default
      = if number < 2 ^ 63 then Int64.ofNat number else default := by
  have visible : ∀ c ∈ text.toList, Text.isBlank c = false :=
    fun c member => Text.not_isBlank_of_isDigit (decimal.digits c member)
  rw [intOr, find?_insert, if_pos rfl]
  dsimp only
  rw [Text.trim_of_not_blank visible, decimal.readInt64_eq]
  by_cases small : number < 2 ^ 63
  · rw [if_pos small, if_pos small]
  · rw [if_neg small, if_neg small]

/-- A parameter whose text is the digits of a number holds the number, unless it lies above the
signed 64-bit range. -/
theorem intOr_insert_toString (params : Params) (name : String) (number : Nat) (default : Int64) :
    (params.insert name (toString number)).intOr name default
      = if number < 2 ^ 63 then Int64.ofNat number else default :=
  params.intOr_insert_decimal name (Text.decimal_toString number) default

/-- A parameter holds the same integer after another one is put in. -/
theorem intOr_insert_of_ne {params : Params} {name value key : String} (other : key ≠ name)
    (default : Int64) :
    (params.insert name value).intOr key default = params.intOr key default := by
  rw [intOr, intOr, find?_insert, if_neg other]

end Params

end Listing
