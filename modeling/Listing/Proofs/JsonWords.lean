import Listing.Json.Basic
import Listing.Json.Lexeme
import Listing.Proofs.Numerals

/-!
# Words of JSON text that read back

What is written for a text or an integer is read as that text or integer, and what follows is left
alone. Main statements: `readText_quote` for every text, and `readNumber_toString` with
`value_lexemeOf` for the integers of the 64-bit ranges.
-/
namespace Listing.Json

open Text (hexValue)

/-! ### Texts -/

/-- A short escape is read as the character that it names. -/
theorem textPieces_short {escape c : Char} (named : shortEscape escape = some c)
    (rest : List Char) :
    textPieces ('\\' :: escape :: rest)
      = (textPieces rest).map fun found => (.char c :: found.1, found.2) := by
  have other : escape ≠ 'u' := by
    rintro rfl
    contradiction
  rw [textPieces]
  · simp only [named]
    cases textPieces rest <;> rfl
  · simp [other]

/-- A code unit below 256 is read from the hexadecimal digits that spell it. -/
theorem textPieces_unit {first last : Char} {high low : Nat}
    (left : hexValue first = some high) (right : hexValue last = some low) (rest : List Char) :
    textPieces ('\\' :: 'u' :: '0' :: '0' :: first :: last :: rest)
      = (textPieces rest).map fun found => (.unit (high * 16 + low) :: found.1, found.2) := by
  have zero : hexValue '0' = some 0 := by decide
  rw [textPieces]
  simp only [left, right, zero]
  cases textPieces rest <;> simp

/-- A character that is not escaped is read as itself. -/
theorem textPieces_char {c : Char} (quote : c ≠ '\x22') (backslash : c ≠ '\\')
    (visible : 0x20 ≤ c.toNat) (rest : List Char) :
    textPieces (c :: rest)
      = (textPieces rest).map fun found => (.char c :: found.1, found.2) := by
  have shown : ¬c.toNat < 0x20 := by omega
  rw [textPieces.eq_def]
  dsimp only
  rw [if_neg quote, if_neg backslash, if_neg shown]
  cases textPieces rest <;> rfl

/-- A hexadecimal digit has the value that it is written for. -/
theorem hexValue_digitChar {digit : Nat} (small : digit < 16) :
    hexValue digit.digitChar = some digit := by
  have values : ∀ digit < 16, hexValue (Nat.digitChar digit) = some digit := by decide
  exact values digit small

/-- The controls that have a short escape. -/
def shortControls : List Char := ['\n', '\r', '\t', '\x08', '\x0c']

/-- How a character is taken back from a text: a control without a short escape as a code unit,
every other character as itself. -/
def pieceOf (c : Char) : TextPiece :=
  if c.toNat < 0x20 ∧ c ∉ shortControls then .unit c.toNat else .char c

/-- A control without a short escape is written as a code unit. -/
theorem escapeChar_unit {c : Char} (control : c.toNat < 0x20) (long : c ∉ shortControls) :
    escapeChar c
      = ['\\', 'u', '0', '0', Nat.digitChar (c.toNat / 16), Nat.digitChar (c.toNat % 16)] := by
  have other {mark : Char} (visible : 0x20 ≤ mark.toNat) : c ≠ mark := by
    rintro rfl
    omega
  have named {short : Char} (member : short ∈ shortControls) : c ≠ short := by
    rintro rfl
    exact long member
  have backspace : c.toNat ≠ 0x8 :=
    fun same => @named '\x08' (by decide) (Char.toNat_inj.1 same)
  have feed : c.toNat ≠ 0xC :=
    fun same => @named '\x0c' (by decide) (Char.toNat_inj.1 same)
  rw [escapeChar, if_neg (other (by decide)), if_neg (other (by decide)),
    if_neg (named (by decide)), if_neg (named (by decide)), if_neg (named (by decide)),
    if_neg backspace, if_neg feed]
  -- below 16 the first of the two digits is written as a zero, not found by division
  by_cases low : c.toNat < 0x10
  · rw [if_pos low, Nat.toDigits_of_lt_base low, Nat.div_eq_of_lt low, Nat.mod_eq_of_lt low]
    rfl
  · have one : c.toNat / 16 = 1 := by omega
    rw [if_neg low, if_pos control, Nat.toDigits_eq_if (by decide), if_neg low, one]
    rfl

/-- A character that needs no escape is written as itself. -/
theorem escapeChar_plain {c : Char} (quote : c ≠ '\x22') (backslash : c ≠ '\\')
    (visible : 0x20 ≤ c.toNat) : escapeChar c = [c] := by
  have other {control : Char} (low : control.toNat < 0x20) : c ≠ control := by
    rintro rfl
    omega
  rw [escapeChar, if_neg quote, if_neg backslash, if_neg (other (by decide)),
    if_neg (other (by decide)), if_neg (other (by decide)), if_neg (by omega), if_neg (by omega),
    if_neg (by omega), if_neg (by omega)]

/-- What is written for a character is read as one piece of the text. -/
theorem textPieces_escapeChar (c : Char) (rest : List Char) :
    textPieces (escapeChar c ++ rest)
      = (textPieces rest).map fun found => (pieceOf c :: found.1, found.2) := by
  by_cases control : c.toNat < 0x20
  · by_cases short : c ∈ shortControls
    · have piece : pieceOf c = .char c := if_neg fun both => both.2 short
      simp only [shortControls, List.mem_cons, List.not_mem_nil, or_false] at short
      rw [piece]
      rcases short with rfl | rfl | rfl | rfl | rfl <;> exact textPieces_short (by decide) rest
    · have high : hexValue (Nat.digitChar (c.toNat / 16)) = some (c.toNat / 16) :=
        hexValue_digitChar (by omega)
      have low : hexValue (Nat.digitChar (c.toNat % 16)) = some (c.toNat % 16) :=
        hexValue_digitChar (by omega)
      have whole : c.toNat / 16 * 16 + c.toNat % 16 = c.toNat := Nat.div_add_mod' _ _
      have unit := textPieces_unit high low rest
      rw [whole] at unit
      rw [escapeChar_unit control short, pieceOf, if_pos ⟨control, short⟩]
      exact unit
  · have piece : pieceOf c = .char c := if_neg fun both => control both.1
    rw [piece]
    by_cases mark : c = '\x22'
    · subst mark
      exact textPieces_short (by decide) rest
    by_cases backslash : c = '\\'
    · subst backslash
      exact textPieces_short (by decide) rest
    rw [escapeChar_plain mark backslash (by omega)]
    exact textPieces_char mark backslash (by omega) rest

/-- The pieces of a text are joined to its characters. -/
theorem joinPieces_pieceOf (c : Char) (rest : List TextPiece) :
    joinPieces (pieceOf c :: rest) = (joinPieces rest).map (c :: ·) := by
  rw [pieceOf]
  split
  · next unit =>
    have low : c.toNat < 0x20 := unit.1
    rw [joinPieces.eq_def]
    dsimp only
    rw [if_neg (by omega), if_neg (by omega), Char.ofNat_toNat]
  · rw [joinPieces]

/-- The characters of a text are read back from what is written for them, up to the quote that
closes the text. -/
theorem textPieces_escaped (chars rest : List Char) :
    textPieces (chars.flatMap escapeChar ++ '\x22' :: rest) = some (chars.map pieceOf, rest) := by
  induction chars with
  | nil =>
    rw [List.flatMap_nil, List.nil_append, textPieces.eq_def]
    rfl
  | cons c more ih =>
    rw [List.flatMap_cons, List.append_assoc, textPieces_escapeChar, ih]
    rfl

/-- The pieces of characters are joined to the characters. -/
theorem joinPieces_map_pieceOf (chars : List Char) :
    joinPieces (chars.map pieceOf) = some chars := by
  induction chars with
  | nil => rfl
  | cons c more ih =>
    rw [List.map_cons, joinPieces_pieceOf, ih]
    rfl

/-- A text between quotes with more text after it. -/
theorem quote_append (text : String) (rest : List Char) :
    (quote text).toList ++ rest
      = '\x22' :: (text.toList.flatMap escapeChar ++ '\x22' :: rest) := by
  simp [quote]

/-- A text is read back from its quotes. -/
theorem readText_quote (text : String) (rest : List Char) :
    readText ((quote text).toList ++ rest) = some (text, rest) := by
  rw [quote_append, readText, textPieces_escaped]
  simp [joinPieces_map_pieceOf]

/-! ### Numbers -/

/-- What may follow a value: the end of the text, or the next mark of the list that it stands in. -/
def EndsValue (rest : List Char) : Prop := ∀ c ∈ rest.head?, c = ',' ∨ c = ']'

/-- The end of a text may follow a value. -/
theorem endsValue_nil : EndsValue [] := by simp [EndsValue]

/-- A comma may follow a value. -/
theorem endsValue_comma (rest : List Char) : EndsValue (',' :: rest) := by simp [EndsValue]

/-- A closing bracket may follow a value. -/
theorem endsValue_bracket (rest : List Char) : EndsValue (']' :: rest) := by simp [EndsValue]

/-- The values of decimal digits. -/
def digitsOf (spelled : List Char) : List Nat := spelled.map fun c => c.toNat - '0'.toNat

/-- Digits are read up to the end of the value. -/
theorem digits_append {spelled rest : List Char} (decimal : ∀ c ∈ spelled, c.isDigit)
    (ends : EndsValue rest) : digits (spelled ++ rest) = (digitsOf spelled, rest) := by
  have stop : rest.takeWhile Char.isDigit = [] ∧ rest.dropWhile Char.isDigit = rest := by
    cases rest with
    | nil => exact ⟨rfl, rfl⟩
    | cons c more =>
      have other : ¬c.isDigit := by
        obtain rfl | rfl := ends c rfl <;> decide
      exact ⟨List.takeWhile_cons_of_neg other, List.dropWhile_cons_of_neg other⟩
  rw [digits, List.takeWhile_append_of_pos decimal, List.dropWhile_append_of_pos decimal, stop.1,
    stop.2, List.append_nil, digitsOf]

/-- A number whose first digit is zero has no other digit. -/
theorem eq_nil_of_toDigits {number : Nat} {more : List Char}
    (spelled : Nat.toDigits 10 number = '0' :: more) : more = [] := by
  induction number using Nat.strongRecOn generalizing more with
  | ind number ih =>
    rw [Nat.toDigits_eq_if (by decide)] at spelled
    by_cases small : number < 10
    · rw [if_pos small] at spelled
      exact (List.cons_eq_cons.1 spelled).2.symm
    · rw [if_neg small] at spelled
      obtain ⟨none, -⟩ | ⟨front, first, -⟩ := List.append_eq_cons_iff.1 spelled
      · exact absurd none Nat.toDigits_ne_nil
      · -- the front would spell zero, so the number would be a single digit
        obtain rfl := ih (number / 10) (by omega) first
        have value := Nat.ofDigitChars_ten_toDigits (n := number / 10)
        rw [first] at value
        have zero : number / 10 = 0 := value.symm
        omega

/-- A digit that is worth zero is the character zero. -/
theorem eq_zero_of_isDigit {c : Char} (digit : c.isDigit) (zero : c.toNat - '0'.toNat = 0) :
    c = '0' := by
  have bounds := Char.isDigit_iff_toNat.1 digit
  exact Char.toNat_inj.1 (by omega)

/-- The digits of a number begin with a digit. -/
theorem exists_toDigits (number : Nat) :
    ∃ c more, Nat.toDigits 10 number = c :: more ∧ c.isDigit := by
  cases spelled : Nat.toDigits 10 number with
  | nil => exact absurd spelled Nat.toDigits_ne_nil
  | cons c more =>
    have member : c ∈ Nat.toDigits 10 number := spelled ▸ List.mem_cons_self
    exact ⟨c, more, rfl, Nat.isDigit_of_mem_toDigits (by decide) (by decide) member⟩

/-- The digits of a number are read up to the end of the value. -/
theorem readWhole_toDigits (number : Nat) {rest : List Char} (ends : EndsValue rest) :
    readWhole (Nat.toDigits 10 number ++ rest)
      = some (digitsOf (Nat.toDigits 10 number), rest) := by
  have decimal : ∀ c ∈ Nat.toDigits 10 number, c.isDigit :=
    fun c => Nat.isDigit_of_mem_toDigits (by decide) (by decide)
  have read := digits_append decimal ends
  obtain ⟨c, more, spelled, digit⟩ := exists_toDigits number
  rw [readWhole, readDigits, read, spelled]
  dsimp only [digitsOf, List.map_cons]
  split
  · next zeros =>
    -- a zero in front of other digits would be refused
    obtain ⟨⟨zero, others⟩, -⟩ : (c.toNat - '0'.toNat = 0 ∧ _) ∧ _ := by simpa using zeros
    obtain rfl := eq_zero_of_isDigit digit zero
    rw [eq_nil_of_toDigits spelled] at others
    contradiction
  · rfl

/-- Digits are gathered as the number that they spell, if it fits. -/
theorem accumulate_eq {spelled : List Char} {number : Nat}
    (small : Nat.ofDigitChars 10 spelled number < UInt64.size) :
    accumulate number (digitsOf spelled) = (Nat.ofDigitChars 10 spelled number, []) := by
  induction spelled generalizing number with
  | nil => rfl
  | cons c rest ih =>
    have next : 10 * number + (c.toNat - '0'.toNat) = number * 10 + (c.toNat - '0'.toNat) := by
      rw [Nat.mul_comm]
    rw [Nat.ofDigitChars_cons, next] at small ⊢
    have grows := Text.le_ofDigitChars rest (number * 10 + (c.toNat - '0'.toNat))
    have unfolded : digitsOf (c :: rest) = (c.toNat - '0'.toNat) :: digitsOf rest := rfl
    rw [unfolded, accumulate, if_pos (by omega), ih small]

/-- How an integer is spelled. -/
def lexemeOf (value : Int) : NumberLexeme :=
  ⟨value < 0, digitsOf (Nat.toDigits 10 value.natAbs), [], none⟩

/-- An integer is written as its digits, after a minus sign if it is negative. -/
theorem toList_toString (value : Int) :
    (toString value).toList
      = if value < 0 then '-' :: Nat.toDigits 10 value.natAbs
        else Nat.toDigits 10 value.natAbs := by
  rw [Int.toString_eq_repr, Int.repr_eq_if]
  by_cases negative : value < 0
  · have magnitude : (-value).toNat = value.natAbs := by omega
    rw [if_neg (by omega), if_pos negative, magnitude, String.toList_append, Nat.toList_repr]
    rfl
  · have magnitude : value.toNat = value.natAbs := by omega
    rw [if_pos (by omega), if_neg negative, magnitude, Nat.toList_repr]

/-- Where a value ends there is no fraction. -/
theorem readFraction_of_ends {rest : List Char} (ends : EndsValue rest) :
    readFraction rest = some ([], rest) := by
  cases rest with
  | nil => rfl
  | cons c more => obtain rfl | rfl := ends c rfl <;> rfl

/-- Where a value ends there is no exponent. -/
theorem readExponent_of_ends {rest : List Char} (ends : EndsValue rest) :
    readExponent rest = some (none, rest) := by
  cases rest with
  | nil => rfl
  | cons c more => obtain rfl | rfl := ends c rfl <;> rfl

/-- The spelling of an integer is read up to the end of the value. -/
theorem readNumber_toString (value : Int) {rest : List Char} (ends : EndsValue rest) :
    readNumber ((toString value).toList ++ rest) = some (lexemeOf value, rest) := by
  have whole := readWhole_toDigits value.natAbs ends
  have fraction := readFraction_of_ends ends
  have exponent := readExponent_of_ends ends
  rw [toList_toString]
  by_cases negative : value < 0
  · rw [if_pos negative]
    simp [readNumber, whole, fraction, exponent, lexemeOf, negative]
  · rw [if_neg negative]
    obtain ⟨c, more, spelled, digit⟩ := exists_toDigits value.natAbs
    have sign : c ≠ '-' := by
      rintro rfl
      contradiction
    rw [spelled, List.cons_append] at whole
    simp [readNumber, sign, whole, fraction, exponent, lexemeOf, negative, spelled]

/-- The spelling of an integer of the 64-bit ranges has the integer as its value. -/
theorem value_lexemeOf {value : Int} (least : Int64.minValue.toInt ≤ value)
    (greatest : value < UInt64.size) : (lexemeOf value).value = some (.int value) := by
  have lowest : Int64.minValue.toInt = -2 ^ 63 := by decide
  have magnitude : value.natAbs < UInt64.size := by
    simp only [UInt64.size] at greatest ⊢
    omega
  have gathered : accumulate 0 (lexemeOf value).whole = (value.natAbs, []) := by
    have fits : Nat.ofDigitChars 10 (Nat.toDigits 10 value.natAbs) 0 < UInt64.size := by
      rw [Nat.ofDigitChars_ten_toDigits]
      exact magnitude
    rw [lexemeOf, accumulate_eq fits, Nat.ofDigitChars_ten_toDigits]
  rw [NumberLexeme.value, gathered]
  by_cases negative : value < 0
  · have inside : ¬(value.natAbs = 0 ∨ Int64.minValue.toInt.natAbs < value.natAbs) := by omega
    have opposite : -(value.natAbs : Int) = value := by omega
    simp only [lexemeOf, negative, decide_true, not_true_eq_false, if_false, if_neg inside,
      opposite]
  · have same : (value.natAbs : Int) = value := by omega
    simp [lexemeOf, negative, same]

end Listing.Json
