import Listing.Proofs.Joining

/-!
# Tests for membership

A test for membership takes the text of a parameter apart at its commas and binds a list of the
pieces. Nothing is lost on the way to the database: the commas are what separates the placeholders,
and the parameters with commas between them are the text. Main statement: `membership_lossless`.
-/
namespace Listing

/-- Texts in a list are displayed with commas between them. -/
theorem Value.displayItems_text (texts : List String) :
    displayItems (texts.map .text) = ",".intercalate texts := by
  induction texts with
  | nil => rfl
  | cons text rest ih =>
    cases rest with
    | nil => rfl
    | cons next rest =>
      rw [List.map_cons] at ih
      rw [List.map_cons, List.map_cons, displayItems, ih, display, String.intercalate_cons_cons]

/-- The place of a list that is not empty is taken by a placeholder for each item. -/
theorem Fragment.replacement_list {dialect : Dialect} {count : Nat} {items : List Value}
    (some : items ≠ []) :
    replacement dialect count (.list items)
      = ", ".intercalate ((List.range' (count + 1) items.length).map dialect.placeholder) := by
  cases items with
  | nil => contradiction
  | cons item rest => rfl

namespace Operator

/-- What stands between the column and the list in a test for membership, or for the contrary. -/
def opening (operator : Operator) : String :=
  if operator = .isIn then " IN (" else " NOT IN ("

/-- A test for membership binds the pieces of a text between its commas, a placeholder for each, and
the pieces with commas between them are the text again. -/
theorem membership_lossless (operator : Operator)
    (membership : operator = .isIn ∨ operator = .isNotIn) (text : String)
    (quoting dialect : Dialect) (qualifier : Option String) (field : String)
    (before : List Value) :
    let column := quoting.qualify qualifier field
    let condition := operator.condition column (.text text)
    ∃ items : List String,
      condition.value = some (.list (items.map .text))
        ∧ items ≠ []
        ∧ (∀ item ∈ items, ',' ∉ item.toList)
        ∧ items.length = text.toList.count ',' + 1
        ∧ (Value.list (items.map .text)).display = text
        ∧ ",".intercalate items = text
        ∧ let numbers := List.range' (before.length + 1) items.length
          Fragment.bind dialect condition.sql condition.value.toList before
            = ⟨.ok (column ++ operator.opening ++ ", ".intercalate (numbers.map dialect.placeholder)
                ++ ")"), before ++ items.map .text⟩ := by
  intro column condition
  let items := Text.split ',' text
  have some : items ≠ [] := Text.split_ne_nil ',' text
  have joined : ",".intercalate items = text := Text.intercalate_split ',' text
  have value : condition.value = .some (.list (items.map .text)) := by
    obtain rfl | rfl := membership <;> rfl
  have sql : condition.sql = column ++ operator.opening ++ "?" ++ ")" := by
    rw [String.append_assoc, String.append_assoc]
    obtain rfl | rfl := membership <;> rfl
  have front : Fragment.Complete (column ++ operator.opening).toList 0 := by
    have keyword : Fragment.Complete operator.opening.toList 0 := by
      obtain rfl | rfl := membership <;> exact ⟨rfl, rfl⟩
    rw [String.toList_append]
    exact (quoting.complete_qualify qualifier field).append keyword
  have back : Fragment.Complete ")".toList 0 := ⟨rfl, rfl⟩
  have replaced : Fragment.replacement dialect before.length (.list (items.map .text))
      = ", ".intercalate
          ((List.range' (before.length + 1) items.length).map dialect.placeholder) := by
    rw [Fragment.replacement_list (mt List.map_eq_nil_iff.1 some), List.length_map]
  refine ⟨items, value, some, fun item member => Text.not_mem_of_mem_split member,
    Text.length_split ',' text, ?_, joined, ?_⟩
  · rw [Value.display, Value.displayItems_text, joined]
  · have bound := Fragment.bind_place dialect front back (.list (items.map .text)) before
    rw [replaced] at bound
    rw [sql, value]
    exact bound

/-- Commas at both ends and next to one another leave empty texts in the list, each with a
placeholder of its own. -/
theorem membership_lossless_empty_items :
    let condition := isNotIn.condition (Dialect.mysql.qualify (some "t") "a?") (.text ",b,,")
    (isNotIn = .isIn ∨ isNotIn = .isNotIn)
      ∧ Fragment.bind .postgresql condition.sql condition.value.toList [.null]
        = ⟨.ok "\x60t\x60.\x60a?\x60 NOT IN ($2, $3, $4, $5)",
          [.null, .text "", .text "b", .text "", .text ""]⟩ := by
  intro condition
  have membership : isNotIn = .isIn ∨ isNotIn = .isNotIn := .inr rfl
  have split : condition.value = some (.list (["", "b", "", ""].map .text)) := by rfl
  obtain ⟨items, value, -, -, -, -, -, bound⟩ :=
    membership_lossless isNotIn membership ",b,," .mysql .postgresql (some "t") "a?" [.null]
  have same := Value.list.inj (Option.some.inj (value.symm.trans split))
  obtain rfl := List.map_injective_iff.2 (fun _ _ => Value.text.inj) same
  exact ⟨membership, bound⟩

end Operator

end Listing
