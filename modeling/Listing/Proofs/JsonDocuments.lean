import Listing.Json.Reader
import Listing.Proofs.JsonWords

/-!
# JSON documents that read back

The compact text of a value without floating-point numbers and objects is read as that value. Lists
may stand in lists, but only down to the greatest depth of a document: a reader of so many levels
refuses the text of a value with more. Main statements: `Plain.readValue_print` for a value in front
of other text, by induction on the value, and `Plain.parse_print` for a document.
-/
namespace Listing.Json

/-- A JSON value without floating-point numbers and without objects. -/
inductive Plain : Json → Prop where
  /-- The value `null`. -/
  | null : Plain .null
  /-- A truth value. -/
  | bool (value : Bool) : Plain (.bool value)
  /-- An integer of the 64-bit ranges. -/
  | int {value : Int} (least : Int64.minValue.toInt ≤ value) (greatest : value < UInt64.size) :
    Plain (.int value)
  /-- A text. -/
  | text (value : String) : Plain (.text value)
  /-- A list of such values. -/
  | array {items : List Json} (each : ∀ item ∈ items, Plain item) : Plain (.array items)

mutual

/-- The number of levels of lists and objects in a value. -/
def levels : Json → Nat
  | array items => levelsOfItems items + 1
  | object members => levelsOfMembers members + 1
  | _ => 0

/-- The number of levels in the deepest of some values. -/
def levelsOfItems : List Json → Nat
  | [] => 0
  | item :: rest => max (levels item) (levelsOfItems rest)

/-- The number of levels in the deepest member of an object. -/
def levelsOfMembers : List (String × Json) → Nat
  | [] => 0
  | (_, value) :: rest => max (levels value) (levelsOfMembers rest)

end

/-- Nothing is skipped in front of a character that is not space. -/
theorem skipSpace_cons {c : Char} (visible : isSpace c = false) (rest : List Char) :
    skipSpace (c :: rest) = c :: rest :=
  List.dropWhile_cons_of_neg (by simp [visible])

/-- The text of an integer begins with a minus sign or a digit. -/
theorem exists_toString (value : Int) :
    ∃ c more, (toString value).toList = c :: more ∧ (c = '-' ∨ c.isDigit) := by
  rw [toList_toString]
  by_cases negative : value < 0
  · exact ⟨'-', _, if_pos negative, .inl rfl⟩
  · obtain ⟨c, more, spelled, digit⟩ := exists_toDigits value.natAbs
    exact ⟨c, more, by rw [if_neg negative, spelled], .inr digit⟩

/-- A minus sign or a digit is no space, and does not begin a value of another kind. -/
theorem number_mark {c : Char} (mark : c = '-' ∨ c.isDigit) :
    isSpace c = false ∧ c ∉ [']', '[', '\x7b', 'n', 't', 'f', '\x22'] := by
  obtain rfl | digit := mark
  · decide
  · have other {mark : Char} (letter : mark.isDigit = false) : c ≠ mark := by
      rintro rfl
      simp [digit] at letter
    simp [isSpace, other]

/-- The mark that begins the text of a value. It is not space and does not close a list; only a
list or an object is begun by a bracket or a brace. -/
theorem Plain.exists_print {json : Json} (plain : json.Plain) :
    ∃ c more, json.print.toList = c :: more ∧ isSpace c = false ∧ c ≠ ']' ∧
      (json.levels = 0 → c ≠ '[' ∧ c ≠ '\x7b') := by
  cases plain with
  | null => exact ⟨'n', ['u', 'l', 'l'], by decide⟩
  | bool value =>
    cases value with
    | false => exact ⟨'f', ['a', 'l', 's', 'e'], by decide⟩
    | true => exact ⟨'t', ['r', 'u', 'e'], by decide⟩
  | @int value least greatest =>
    obtain ⟨c, more, spelled, mark⟩ := exists_toString value
    obtain ⟨visible, other⟩ := number_mark mark
    simp only [List.mem_cons, not_or] at other
    exact ⟨c, more, spelled, visible, other.1, fun _ => ⟨other.2.1, other.2.2.1⟩⟩
  | text value =>
    refine ⟨'\x22', value.toList.flatMap escapeChar ++ ['\x22'], by simp [print, quote],
      by decide, by decide, ?_⟩
    intro _
    decide
  | @array items each =>
    refine ⟨'[', (printItems items).toList ++ [']'], by simp [print], by decide, by decide, ?_⟩
    intro flat
    contradiction

/-- A value that is no list is read up to its end. -/
theorem Plain.readScalar_print {json : Json} (plain : json.Plain) (flat : json.levels = 0)
    {rest : List Char} (ends : EndsValue rest) :
    readScalar (json.print.toList ++ rest) = some (json, rest) := by
  cases plain with
  | null => rfl
  | bool value => cases value <;> rfl
  | @int value least greatest =>
    obtain ⟨c, more, spelled, mark⟩ := exists_toString value
    obtain ⟨visible, other⟩ := number_mark mark
    simp only [List.mem_cons, not_or] at other
    have read := readNumber_toString value ends
    rw [spelled, List.cons_append] at read
    rw [print, spelled, List.cons_append, readScalar, skipSpace_cons visible]
    simp [other, read, value_lexemeOf least greatest]
  | text value =>
    have read := readText_quote value rest
    rw [quote_append] at read
    rw [print, quote_append, readScalar, skipSpace_cons (by decide)]
    simp [read]
  | array each => contradiction

/-- A value that is no list is read at any depth. -/
theorem Plain.readValue_flat {json : Json} (plain : json.Plain) (flat : json.levels = 0)
    (depth : Nat) {rest : List Char} (ends : EndsValue rest) :
    readValue depth (json.print.toList ++ rest) = some (json, rest) := by
  have scalar := plain.readScalar_print flat ends
  cases depth with
  | zero => exact scalar
  | succ depth =>
    obtain ⟨c, more, spelled, visible, -, other⟩ := plain.exists_print
    obtain ⟨bracket, brace⟩ := other flat
    rw [spelled, List.cons_append] at scalar ⊢
    rw [readValue, skipSpace_cons visible]
    split
    · next same => exact absurd (List.cons_eq_cons.1 same).1 bracket
    · next same => exact absurd (List.cons_eq_cons.1 same).1 brace
    · exact scalar

/-- Printed items are read back, unless one of them nests deeper than the reader reads. -/
theorem readItems_printItems {depth : Nat} {item : Json} {items : List Json}
    (read : ∀ json ∈ item :: items, ∀ rest, EndsValue rest →
      readValue depth (json.print.toList ++ rest)
        = if json.levels ≤ depth then some (json, rest) else none)
    {bound : Nat} (enough : items.length < bound) (rest : List Char) :
    readItems ']' (readValue depth) bound ((printItems (item :: items)).toList ++ ']' :: rest)
      = if levelsOfItems (item :: items) ≤ depth then some (item :: items, rest) else none := by
  induction items generalizing item bound with
  | nil =>
    cases bound with
    | zero => contradiction
    | succ bound =>
      have first := read item List.mem_cons_self (']' :: rest) (endsValue_bracket rest)
      rw [readItems, printItems, first]
      by_cases inside : item.levels ≤ depth
      · simp [inside, levelsOfItems, skipSpace_cons (c := ']') (by decide)]
      · simp [inside, levelsOfItems]
  | cons next more ih =>
    cases bound with
    | zero => contradiction
    | succ bound =>
      have others := ih (fun json member => read json (List.mem_cons_of_mem _ member))
        (Nat.lt_of_succ_lt_succ enough)
      have first := read item List.mem_cons_self
        (',' :: ((printItems (next :: more)).toList ++ ']' :: rest)) (endsValue_comma _)
      have spelled : (printItems (item :: next :: more)).toList ++ ']' :: rest
          = item.print.toList ++ ',' :: ((printItems (next :: more)).toList ++ ']' :: rest) := by
        simp [printItems]
      have deepest : levelsOfItems (item :: next :: more) ≤ depth
          ↔ item.levels ≤ depth ∧ levelsOfItems (next :: more) ≤ depth := by
        rw [levelsOfItems, Nat.max_le]
      rw [spelled, readItems, first]
      simp only [deepest]
      by_cases inside : item.levels ≤ depth
      · by_cases within : levelsOfItems (next :: more) ≤ depth
        · simp [inside, within, skipSpace_cons (c := ',') (by decide), others]
        · simp [inside, within, skipSpace_cons (c := ',') (by decide), others]
      · simp [inside]

/-- The text of a list has a comma for every item after the first. -/
theorem length_le_printItems (item : Json) (items : List Json) :
    items.length ≤ (printItems (item :: items)).toList.length := by
  induction items generalizing item with
  | nil => exact Nat.zero_le _
  | cons next more ih =>
    have others := ih next
    simp only [printItems, String.toList_append, List.length_append, List.length_cons] at others ⊢
    have comma : ",".toList.length = 1 := rfl
    omega

/-- A printed list is read back, unless one of its items nests deeper than the reader reads. -/
theorem readListed_printItems {depth : Nat} {items : List Json}
    (plain : ∀ item ∈ items, item.Plain)
    (read : ∀ item ∈ items, ∀ rest, EndsValue rest →
      readValue depth (item.print.toList ++ rest)
        = if item.levels ≤ depth then some (item, rest) else none) (rest : List Char) :
    readListed ']' (readValue depth) ((printItems items).toList ++ ']' :: rest)
      = if levelsOfItems items ≤ depth then some (items, rest) else none := by
  cases items with
  | nil => simp [printItems, readListed, skipSpace_cons (c := ']') (by decide), levelsOfItems]
  | cons item more =>
    obtain ⟨c, tail, first, visible, other, -⟩ := (plain item List.mem_cons_self).exists_print
    obtain ⟨others, spelled⟩ : ∃ others, (printItems (item :: more)).toList = c :: others := by
      cases more with
      | nil => exact ⟨tail, first⟩
      | cons next more =>
        rw [printItems, String.toList_append, String.toList_append, first]
        exact ⟨_, rfl⟩
    have enough : more.length < (others ++ ']' :: rest).length + 1 := by
      have commas := length_le_printItems item more
      rw [spelled] at commas
      simp only [List.length_append, List.length_cons] at commas ⊢
      omega
    have items := readItems_printItems read enough rest
    rw [spelled, List.cons_append] at items ⊢
    rw [readListed, skipSpace_cons visible]
    dsimp only
    rw [if_neg other, items]

/-- Printed values are read back, unless they nest deeper than the reader reads. -/
theorem Plain.readValue_print {json : Json} (plain : json.Plain) (depth : Nat) {rest : List Char}
    (ends : EndsValue rest) :
    readValue depth (json.print.toList ++ rest)
      = if json.levels ≤ depth then some (json, rest) else none := by
  induction plain generalizing depth rest with
  | null => exact Plain.null.readValue_flat rfl depth ends
  | bool value => exact (Plain.bool value).readValue_flat rfl depth ends
  | int least greatest => exact (Plain.int least greatest).readValue_flat rfl depth ends
  | text value => exact (Plain.text value).readValue_flat rfl depth ends
  | @array items each ih =>
    -- one level is spent on the list, so its items are read with a depth that is one less
    have spelled : (Json.array items).print.toList ++ rest
        = '[' :: ((printItems items).toList ++ ']' :: rest) := by simp [print]
    rw [spelled]
    cases depth with
    | zero => rfl
    | succ depth =>
      have listed := readListed_printItems each
        (fun item member rest ends => ih item member depth ends) rest
      have deeper : (Json.array items).levels ≤ depth + 1 ↔ levelsOfItems items ≤ depth := by
        rw [levels, Nat.succ_le_succ_iff]
      rw [readValue, skipSpace_cons (by decide)]
      simp only [listed, deeper]
      split_ifs <;> rfl

/-- The text of a value is read back as the value, unless the value nests deeper than a document
may. -/
theorem Plain.parse_print {json : Json} (plain : json.Plain) :
    parse json.print = if json.levels ≤ greatestDepth then some json else none := by
  have read := plain.readValue_print greatestDepth endsValue_nil
  rw [List.append_nil] at read
  rw [parse, readWhole?, read]
  split_ifs <;> rfl

end Listing.Json
