/-!
# Cutting texts at separators

A text is cut at every occurrence of a separator, so that no piece is lost, not even an empty one,
or it is cut once, where a separator stands or stands twice in a row. Main statements:
`length_split` counts the pieces of a text, and `intercalate_split` puts them together again.
-/
namespace Listing.Text

variable {α : Type} [DecidableEq α]

/-- The parts before and after the first separator, when there is one. -/
def cut (separator : α) : List α → Option (List α × List α)
  | [] => none
  | item :: rest =>
    if item = separator then some ([], rest)
    else (cut separator rest).map fun parts => (item :: parts.1, parts.2)

/-- The parts before and after the first place where the separator stands twice in a row. -/
def cutDoubled (separator : α) : List α → Option (List α × List α)
  | [] => none
  | item :: rest =>
    if item = separator ∧ rest.head? = some separator then some ([], rest.tail)
    else (cutDoubled separator rest).map fun parts => (item :: parts.1, parts.2)

/-- The pieces of a text between the commas or other separators in it. -/
def split (separator : Char) (text : String) : List String :=
  (text.toList.splitOn separator).map String.ofList

/-- Items without a separator in front of others belong to the first piece of those. -/
theorem splitOn_append_of_not_mem {separator : α} {front : List α} (absent : separator ∉ front)
    (rest : List α) :
    (front ++ rest).splitOn separator = (rest.splitOn separator).modifyHead (front ++ ·) := by
  induction front with
  | nil => exact (congrFun List.modifyHead_id _).symm
  | cons item front ih =>
    obtain ⟨other, later⟩ := not_or.1 (mt List.mem_cons.2 absent)
    have apart : ¬ (item == separator) = true := fun same => other (beq_iff_eq.1 same).symm
    rw [List.cons_append, List.splitOn_cons_eq_if_modifyHead, if_neg apart, ih later,
      List.modifyHead_modifyHead]
    rfl

/-- No separator is left in a piece. -/
theorem not_mem_of_mem_splitOn {separator : α} {items piece : List α}
    (member : piece ∈ items.splitOn separator) : separator ∉ piece := by
  induction items generalizing piece with
  | nil =>
    obtain rfl := List.mem_singleton.1 member
    exact List.not_mem_nil
  | cons item rest ih =>
    rw [List.splitOn_cons_eq_if_modifyHead] at member
    split at member
    · cases List.mem_cons.1 member with
      | inl empty => exact empty ▸ List.not_mem_nil
      | inr later => exact ih later
    · rename_i other
      obtain ⟨first, more, found⟩ :=
        List.exists_cons_of_ne_nil (List.splitOn_ne_nil separator rest)
      rw [found] at ih member
      rw [List.modifyHead_cons] at member
      cases List.mem_cons.1 member with
      | inl longer =>
        have absent : separator ∉ first := ih List.mem_cons_self
        have apart : separator ≠ item := fun same => other (beq_iff_eq.2 same.symm)
        rw [longer, List.mem_cons, not_or]
        exact ⟨apart, absent⟩
      | inr later => exact ih (List.mem_cons_of_mem _ later)

/-- There is one piece more than there are separators. -/
theorem length_splitOn (separator : α) (items : List α) :
    (items.splitOn separator).length = items.count separator + 1 := by
  induction items with
  | nil => rfl
  | cons item rest ih =>
    rw [List.splitOn_cons_eq_if_modifyHead, List.count_cons]
    split
    · rw [List.length_cons, ih]
    · rw [List.length_modifyHead, ih, Nat.add_zero]

/-- The pieces of a text are as many as its separators and one more. -/
theorem length_split (separator : Char) (text : String) :
    (split separator text).length = text.toList.count separator + 1 := by
  rw [split, List.length_map, length_splitOn]

/-- A piece of a text does not hold the separator. -/
theorem not_mem_of_mem_split {separator : Char} {text piece : String}
    (member : piece ∈ split separator text) : separator ∉ piece.toList := by
  obtain ⟨chars, inside, rfl⟩ := List.mem_map.1 member
  rw [String.toList_ofList]
  exact not_mem_of_mem_splitOn inside

/-- There is at least one piece. -/
theorem split_ne_nil (separator : Char) (text : String) : split separator text ≠ [] :=
  mt List.map_eq_nil_iff.1 (List.splitOn_ne_nil separator text.toList)

/-- The characters of the pieces are the pieces of the characters. -/
theorem map_toList_split (separator : Char) (text : String) :
    (split separator text).map String.toList = text.toList.splitOn separator := by
  rw [split, List.map_map]
  exact (List.map_congr_left fun piece _ => String.toList_ofList).trans (List.map_id _)

/-- A text without a separator is a single piece. -/
theorem split_of_not_mem {separator : Char} {text : String} (absent : separator ∉ text.toList) :
    split separator text = [text] := by
  rw [split, List.splitOn_eq_singleton absent, List.map_singleton, String.ofList_toList]

/-- Texts without a separator in them are the pieces of the texts with it between them. -/
theorem split_intercalate {separator : Char} {texts : List String} (some : texts ≠ [])
    (whole : ∀ text ∈ texts, separator ∉ text.toList) :
    split separator ((String.singleton separator).intercalate texts) = texts := by
  have characters : ∀ chars ∈ texts.map String.toList, separator ∉ chars := by
    rintro _ member
    obtain ⟨text, inside, rfl⟩ := List.mem_map.1 member
    exact whole text inside
  rw [split, String.toList_intercalate, String.toList_singleton,
    List.splitOn_intercalate separator characters (mt List.map_eq_nil_iff.1 some), List.map_map]
  exact (List.map_congr_left fun text _ => String.ofList_toList).trans (List.map_id texts)

/-- The pieces of a text with the separator between them are the text again. -/
theorem intercalate_split (separator : Char) (text : String) :
    (String.singleton separator).intercalate (split separator text) = text := by
  apply String.toList_injective
  rw [String.toList_intercalate, String.toList_singleton, map_toList_split,
    List.intercalate_splitOn]

end Listing.Text
