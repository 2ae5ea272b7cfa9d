import Listing.Dialect
import Listing.Text.Split
import Listing.Value

/-!
# SQL fragments and their values

A fragment is a piece of SQL in which a `?` outside quotes stands for a value. Binding replaces
each of them, from left to right, by the placeholders of the next value and appends what is bound
to a list of parameters, which numbers the placeholders. Quotes of the three kinds hide what is
between them: a quote ends at the next character that began it.
-/
namespace Listing.Fragment

/-- Whether a character begins and ends quotes. -/
def isQuote (c : Char) : Bool := c == '\x22' || c == '\x60' || c == '\x27'

/-- The quotes that are open after a character, when some or none were open before it. -/
def quotesAfter : Option Char → Char → Option Char
  | some mark, c => if c = mark then none else some mark
  | none, c => if isQuote c then some c else none

/-- Why values cannot be bound to a fragment. -/
inductive Mismatch where
  /-- There are more placeholders than values. -/
  | morePlaceholders
  /-- There are fewer placeholders than values. -/
  | fewerPlaceholders
  deriving DecidableEq, Repr

/-- The error of a mismatch in a fragment. -/
def Mismatch.cause (fragment : String) : Mismatch → Cause
  | .morePlaceholders => .morePlaceholders fragment
  | .fewerPlaceholders => .fewerPlaceholders fragment

/-- What binding a fragment leaves: its text or the reason why it has none, and the parameters
bound so far. -/
structure Bound (α : Type) where
  /-- The text with its placeholders. -/
  result : Except Mismatch α
  /-- The parameters bound before, followed by those of this fragment. -/
  parameters : List Value

/-- A bound text with more text in front. -/
def Bound.after (front : List Char) (bound : Bound (List Char)) : Bound (List Char) :=
  { bound with result := bound.result.map (front ++ ·) }

/-- The placeholders of a value when so many parameters are bound: one for each item of a list,
`NULL` for a list without items, and one for every other value. -/
def placeholders (dialect : Dialect) (bound : Nat) (value : Value) : String :=
  if value.expansion.isEmpty then "NULL"
  else ", ".intercalate
    ((List.range value.expansion.length).map fun index => dialect.placeholder (bound + index + 1))

/-- Bind values to the rest of a fragment, with some or no quotes open. -/
def bindFrom (dialect : Dialect) :
    Option Char → List Value → List Value → List Char → Bound (List Char)
  | _, [], parameters, [] => ⟨.ok [], parameters⟩
  | _, _ :: _, parameters, [] => ⟨.error .fewerPlaceholders, parameters⟩
  | quotes, values, parameters, c :: rest =>
    if c = '?' ∧ quotes = none then
      match values with
      | [] => ⟨.error .morePlaceholders, parameters⟩
      | value :: later =>
        (bindFrom dialect none later (parameters ++ value.expansion) rest).after
          (placeholders dialect parameters.length value).toList
    else (bindFrom dialect (quotesAfter quotes c) values parameters rest).after [c]

/-- Bind values to a fragment after parameters that are bound already. -/
def bind (dialect : Dialect) (fragment : String) (values parameters : List Value) :
    Bound String :=
  let bound := bindFrom dialect none values parameters fragment.toList
  ⟨bound.result.map String.ofList, bound.parameters⟩

end Listing.Fragment
