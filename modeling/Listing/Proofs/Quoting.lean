import Listing.Operator
import Listing.Proofs.Binding
import Listing.Schema

/-!
# Texts that close their quotes

A text is complete when every quote that it opens is closed again; what follows it is then read as
if it stood alone, and the holes of complete texts in sequence add up. Main statements: quoted
identifiers are complete and have no holes, whatever characters the name holds, so the same is true
of columns, with or without an alias and truncated to dates or not; the condition of an operator on
such a column has exactly one hole for each value that it binds, and so has a conjunction of them.
-/
namespace Listing

namespace Fragment

/-- A text that closes the quotes it opens and has so many holes. -/
structure Complete (text : List Char) (count : Nat) : Prop where
  /-- No quote is open at the end. -/
  closed : quotesAfterAll none text = none
  /-- The number of holes. -/
  holes_eq : holes (tokens none text) = count

/-- A complete text has the holes of its layout. -/
theorem Complete.holes_layout {text : String} {count : Nat}
    (complete : Complete text.toList count) : holes (layout text) = count := by
  rw [layout, ← tokens_eq_layoutOf, complete.holes_eq]

/-- Complete texts in sequence are complete, and their holes add up. -/
theorem Complete.append {first later : List Char} {count more : Nat}
    (left : Complete first count) (right : Complete later more) :
    Complete (first ++ later) (count + more) := by
  constructor
  · rw [quotesAfterAll, List.foldl_append]
    change quotesAfterAll (quotesAfterAll none first) later = none
    rw [left.closed, right.closed]
  · rw [tokens_append, left.closed, holes_append, left.holes_eq, right.holes_eq]

/-- Inside quotes a text whose quote characters of that kind are doubled leaves the quotes open and
has no holes. -/
theorem inside_doubled {mark : Char} (quote : isQuote mark = true) (text : List Char) :
    quotesAfterAll (some mark) (Dialect.doubled mark text) = some mark
      ∧ holes (tokens (some mark) (Dialect.doubled mark text)) = 0 := by
  induction text with
  | nil => exact ⟨rfl, rfl⟩
  | cons c rest ih =>
    have plain : mark ≠ '?' := by
      rintro rfl
      contradiction
    by_cases same : c = mark
    · subst same
      have closes : quotesAfter (some c) c = none := if_pos rfl
      have opens : quotesAfter none c = some c := if_pos quote
      rw [Dialect.doubled_cons_self]
      constructor
      · simpa [quotesAfterAll, closes, opens] using ih.1
      · simpa [tokens, closes, opens, plain] using ih.2
    · have stays : quotesAfter (some mark) c = some mark := if_neg same
      rw [Dialect.doubled_cons_of_ne same]
      constructor
      · simpa [quotesAfterAll, stays] using ih.1
      · simpa [tokens, stays] using ih.2

end Fragment

namespace Dialect

open Fragment (Complete)

/-- The quote character of every dialect begins and ends quotes. -/
theorem isQuote_quoteChar (dialect : Dialect) : Fragment.isQuote dialect.quoteChar = true := by
  cases dialect <;> rfl

/-- An identifier in quotes is complete and has no holes, whatever its name. -/
theorem complete_quote (dialect : Dialect) (name : String) :
    Complete (dialect.quote name).toList 0 := by
  have quote := dialect.isQuote_quoteChar
  obtain ⟨inside, noHoles⟩ := Fragment.inside_doubled quote name.toList
  have opens : Fragment.quotesAfter none dialect.quoteChar = some dialect.quoteChar := if_pos quote
  have closes : Fragment.quotesAfter (some dialect.quoteChar) dialect.quoteChar = none := if_pos rfl
  have plain : dialect.quoteChar ≠ '?' := by cases dialect <;> decide
  rw [Dialect.quote, String.toList_ofList]
  constructor
  · rw [Fragment.quotesAfterAll, List.cons_append, List.foldl_cons, opens, List.foldl_append]
    change Fragment.quotesAfterAll (Fragment.quotesAfterAll _ _) [_] = none
    rw [inside]
    exact closes
  · rw [List.cons_append, Fragment.tokens, opens, Fragment.tokens_append, inside]
    simp [Fragment.tokens, plain, noHoles]

/-- A column is complete and has no holes, whatever its name and its alias. -/
theorem complete_qualify (dialect : Dialect) (qualifier : Option String) (column : String) :
    Complete (dialect.qualify qualifier column).toList 0 := by
  cases qualifier with
  | none => exact dialect.complete_quote column
  | some table =>
    rw [qualify]
    split
    · exact dialect.complete_quote column
    · rw [String.toList_append, String.toList_append]
      exact ((dialect.complete_quote table).append ⟨rfl, rfl⟩).append
        (dialect.complete_quote column)

end Dialect

open Fragment (Complete)

/-- The date in a complete text without holes is complete and has no holes. -/
theorem complete_truncateToDate {column : String} (complete : Complete column.toList 0) :
    Complete (truncateToDate column).toList 0 := by
  rw [truncateToDate, String.toList_append, String.toList_append]
  have opening : Complete "DATE(".toList 0 := ⟨rfl, rfl⟩
  have closing : Complete ")".toList 0 := ⟨rfl, rfl⟩
  exact (opening.append complete).append closing

/-- The condition of an operator on a complete column without holes has a hole for each value that
it binds. -/
theorem Operator.complete_condition {column : String} (operator : Operator) (value : Value)
    (complete : Complete column.toList 0) :
    Complete (operator.condition column value).sql.toList
      (operator.condition column value).value.toList.length := by
  have compared : Complete (operator.comparison value).toList
      (if operator.bindsValue then 1 else 0) := by
    unfold comparison
    cases operator with
    | isNull =>
      dsimp only
      split <;> exact ⟨rfl, rfl⟩
    | _ =>
      dsimp only
      exact ⟨rfl, rfl⟩
  have count : (operator.condition column value).value.toList.length
      = if operator.bindsValue then 1 else 0 := by
    unfold condition
    split <;> rfl
  have whole := complete.append compared
  rwa [Nat.zero_add, ← String.toList_append, ← count] at whole

/-- The conjunction of complete conditions has a hole for each value that they bind. -/
theorem complete_intercalate {conditions : List Condition}
    (complete : ∀ condition ∈ conditions,
      Complete condition.sql.toList condition.value.toList.length) :
    Complete (" AND ".intercalate (conditions.map Condition.sql)).toList
      (conditions.filterMap Condition.value).length := by
  induction conditions with
  | nil => exact ⟨rfl, rfl⟩
  | cons condition rest ih =>
    have own := complete condition List.mem_cons_self
    have later := ih fun condition member => complete condition (List.mem_cons_of_mem _ member)
    have count : ((condition :: rest).filterMap Condition.value).length
        = condition.value.toList.length + (rest.filterMap Condition.value).length := by
      cases bound : condition.value <;> simp [bound, Nat.add_comm]
    rw [count]
    cases rest with
    | nil => exact own
    | cons next rest =>
      have joint : Complete " AND ".toList 0 := ⟨rfl, rfl⟩
      rw [List.map_cons, List.map_cons, String.intercalate_cons_cons, String.toList_append,
        String.toList_append]
      exact (own.append joint).append later

end Listing
