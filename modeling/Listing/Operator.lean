import Listing.Text.Split
import Listing.Value

/-!
# Filter operators and the roles of parameters

An operator compiles a column and a value to a SQL condition with one placeholder for the value.
Membership takes a text apart at its commas; the test for null looks at the value and binds none.
The four comparisons are read from the side of the value: `gt` keeps the rows for which the value
is greater than the column.

The name of a parameter says what it asks for. A name with a handler is special. The name of an
allowed field asks for equality; the name of an allowed field, two underscores and the name of an
operator ask for that operator. All other names ask for nothing. The underscores are the first two
that stand together, and the name of an operator has no such pair.
-/
namespace Listing

/-- A SQL condition and the value of its placeholder. -/
structure Condition where
  /-- The condition, with `?` for the value. -/
  sql : String
  /-- The value; none, when the condition has no placeholder. -/
  value : Option Value

/-- The operators that a parameter can ask for. -/
inductive Operator where
  /-- The column contains the value. -/
  | contains
  /-- The column equals the value. -/
  | equal
  /-- The column differs from the value. -/
  | notEqual
  /-- The value is greater than the column. -/
  | greater
  /-- The value is greater than the column or equals it. -/
  | greaterOrEqual
  /-- The value is less than the column. -/
  | less
  /-- The value is less than the column or equals it. -/
  | lessOrEqual
  /-- The column starts with the value. -/
  | startsWith
  /-- The column ends with the value. -/
  | endsWith
  /-- The column is among the values. -/
  | isIn
  /-- The column is not among the values. -/
  | isNotIn
  /-- The column is null, or is not, as the value says. -/
  | isNull
  deriving DecidableEq, Repr

namespace Operator

/-- The operators, in the order of the catalogue. -/
def all : List Operator :=
  [contains, equal, notEqual, greater, greaterOrEqual, less, lessOrEqual, startsWith, endsWith,
    isIn, isNotIn, isNull]

/-- The name by which parameters ask for an operator. -/
def name : Operator → String
  | contains => "contains"
  | equal => "eq"
  | notEqual => "neq"
  | greater => "gt"
  | greaterOrEqual => "gte"
  | less => "lt"
  | lessOrEqual => "lte"
  | startsWith => "startswith"
  | endsWith => "endswith"
  | isIn => "in"
  | isNotIn => "not_in"
  | isNull => "isnull"

/-- The operator of a name. -/
def ofName? (text : String) : Option Operator := all.find? fun operator => operator.name == text

/-- Whether the condition of an operator has a placeholder. -/
def bindsValue (operator : Operator) : Bool := operator != isNull

/-- The list of the pieces of a text between its commas; any other value stays as it is. -/
def members : Value → Value
  | .text value => .list ((Text.split ',' value).map .text)
  | value => value

/-- Whether a value asks for null: the truth value true, or one of two texts for it. -/
def asksForNull : Value → Bool
  | .bool value => value
  | .text value => value == "true" || value == "1"
  | _ => false

/-- What stands after the column in the condition of an operator on a value. -/
def comparison : Operator → Value → String
  | contains, _ | startsWith, _ | endsWith, _ => " LIKE ?"
  | equal, _ => " = ?"
  | notEqual, _ => " != ?"
  | greater, _ => " < ?"
  | greaterOrEqual, _ => " <= ?"
  | less, _ => " > ?"
  | lessOrEqual, _ => " >= ?"
  | isIn, _ => " IN (?)"
  | isNotIn, _ => " NOT IN (?)"
  | isNull, value => if asksForNull value then " IS NULL" else " IS NOT NULL"

/-- The value that an operator binds for a value given. -/
def operand : Operator → Value → Value
  | contains, value => .text ("%" ++ value.display ++ "%")
  | startsWith, value => .text (value.display ++ "%")
  | endsWith, value => .text ("%" ++ value.display)
  | isIn, value | isNotIn, value => members value
  | _, value => value

/-- The condition of an operator on a column and a value. -/
def condition (operator : Operator) (column : String) (value : Value) : Condition where
  sql := column ++ operator.comparison value
  value := if operator.bindsValue then some (operator.operand value) else none

end Operator

/-! ## Roles -/

/-- What a parameter asks for. -/
inductive Role where
  /-- The handler of the parameter is to run. -/
  | special (key : String)
  /-- A field is to be compared. -/
  | field (name : String) (operator : Operator)
  deriving DecidableEq, Repr

namespace Role

/-- The field and the operator of a name that holds both. -/
def ofSplit (fields : List String) (key : String) : Option Role :=
  match Text.cutDoubled '_' key.toList with
  | none => none
  | some (before, after) =>
    let name := String.ofList before
    if (Text.cutDoubled '_' after).isSome || !fields.contains name then none
    else (Operator.ofName? (String.ofList after)).map (Role.field name)

/-- The role of a parameter, with the fields that are allowed and the names that are special. -/
def ofKey (fields : List String) (isSpecial : String → Bool) (key : String) : Option Role :=
  if isSpecial key then some (.special key)
  else if fields.contains key then some (.field key .equal)
  else ofSplit fields key

end Role

end Listing
