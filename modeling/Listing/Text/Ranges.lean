/-!
# Characters by ranges of code points, and white space

A property of characters is written down as the first and last code point of each run of
characters that have it. White space is such a property, `White_Space`, and is removed from both
ends of a text. Main statements: `within_iff` says what a table means, `trim_of_tight` and
`trim_padded` what is left of a text.
-/
namespace Listing.Text

/-- A set of characters: the first and the last code point of each run of them. -/
abbrev Ranges := List (Nat × Nat)

/-- Whether a character lies in one of the runs. -/
def within (ranges : Ranges) (c : Char) : Bool :=
  ranges.any fun range => decide (range.1 ≤ c.toNat) && decide (c.toNat ≤ range.2)

/-- A character is within ranges exactly when some run encloses its code point. -/
theorem within_iff {ranges : Ranges} {c : Char} :
    within ranges c = true ↔ ∃ range ∈ ranges, range.1 ≤ c.toNat ∧ c.toNat ≤ range.2 := by
  simp [within]

/-! ## White space -/

/-- The runs of characters that have the property `White_Space`. -/
def blankRanges : Ranges := [
  (0x9, 0xD), (0x20, 0x20), (0x85, 0x85), (0xA0, 0xA0), (0x1680, 0x1680), (0x2000, 0x200A),
  (0x2028, 0x2029), (0x202F, 0x202F), (0x205F, 0x205F), (0x3000, 0x3000)]

/-- Whether a character is white space. -/
def isBlank (c : Char) : Bool := within blankRanges c

/-- Remove the white space in front of the first other character. -/
def trimStart (cs : List Char) : List Char := cs.dropWhile isBlank

/-- Remove the white space after the last other character. -/
def trimEnd (cs : List Char) : List Char := (trimStart cs.reverse).reverse

/-- Remove the white space at both ends. -/
def trim (cs : List Char) : List Char := trimEnd (trimStart cs)

/-- White space in front of a text is removed with any that the text begins with. -/
theorem trimStart_append {blank : List Char} (allBlank : ∀ c ∈ blank, isBlank c) (cs : List Char) :
    trimStart (blank ++ cs) = trimStart cs :=
  List.dropWhile_append_of_pos allBlank

/-- Nothing is removed in front of a text that does not begin with white space. -/
theorem trimStart_of_head {cs : List Char} (visible : ∀ c ∈ cs.head?, isBlank c = false) :
    trimStart cs = cs := by
  cases cs with
  | nil => rfl
  | cons c rest => exact List.dropWhile_cons_of_neg (by simp [visible c rfl])

/-- White space after a text is removed with any that the text ends with. -/
theorem trimEnd_append {blank : List Char} (allBlank : ∀ c ∈ blank, isBlank c) (cs : List Char) :
    trimEnd (cs ++ blank) = trimEnd cs := by
  have reversed : ∀ c ∈ blank.reverse, isBlank c := fun c member =>
    allBlank c (List.mem_reverse.1 member)
  rw [trimEnd, trimEnd, List.reverse_append, trimStart_append reversed]

/-- Nothing is removed after a text that does not end with white space. -/
theorem trimEnd_of_last {cs : List Char} (visible : ∀ c ∈ cs.getLast?, isBlank c = false) :
    trimEnd cs = cs := by
  rw [trimEnd, trimStart_of_head (by rwa [List.head?_reverse]), List.reverse_reverse]

/-- Whether no white space stands at either end of a text. -/
def Tight (cs : List Char) : Prop :=
  (∀ c ∈ cs.head?, isBlank c = false) ∧ ∀ c ∈ cs.getLast?, isBlank c = false

/-- Whether white space stands at an end of a text can be seen from its first and its last
character. -/
instance (cs : List Char) : Decidable (Tight cs) :=
  decidable_of_iff
    ((cs.head?.all fun c => !isBlank c) = true ∧ (cs.getLast?.all fun c => !isBlank c) = true)
    (by simp [Tight, Option.all_eq_true])

/-- A text without white space at its ends stays as it is when it is trimmed. -/
theorem trim_of_tight {cs : List Char} (tight : Tight cs) : trim cs = cs := by
  rw [trim, trimStart_of_head tight.1, trimEnd_of_last tight.2]

/-- White space around a text is removed, and nothing of the text when none stands at its ends. -/
theorem trim_padded {before cs after : List Char} (blankBefore : ∀ c ∈ before, isBlank c)
    (blankAfter : ∀ c ∈ after, isBlank c) (tight : Tight cs) :
    trim (before ++ cs ++ after) = cs := by
  rw [List.append_assoc, trim, trimStart_append blankBefore]
  cases cs with
  | nil =>
    have nothing := trimStart_append blankAfter []
    rw [List.append_nil] at nothing
    rw [List.nil_append, nothing]
    rfl
  | cons c rest =>
    have visible : ∀ other ∈ (c :: rest ++ after).head?, isBlank other = false := tight.1
    rw [trimStart_of_head visible, trimEnd_append blankAfter, trimEnd_of_last tight.2]

end Listing.Text
