import Listing.Json.Basic
import Listing.Json.Reader

/-!
# Values bound to a query

A value takes the place of one placeholder of a SQL fragment; a list takes the place of several.
Values have a text, used where they become part of a pattern, and a JSON form. The JSON form says
nothing about which kind of value it came from, so reading it back gives the first kind that fits:
whole numbers of the signed 64-bit range are integers, all other numbers are floating-point
numbers, and lists and objects stay JSON.
-/
namespace Listing

/-- A value bound to a query. -/
inductive Value where
  /-- The null of SQL. -/
  | null
  /-- A truth value. -/
  | bool (value : Bool)
  /-- An integer. -/
  | int (value : Int64)
  /-- A floating-point number. -/
  | float (value : Binary64)
  /-- A text. -/
  | text (value : String)
  /-- A JSON document. -/
  | json (value : Json)
  /-- A list, bound to one placeholder for each item. -/
  | list (items : List Value)
  deriving Inhabited

namespace Value

/-- Whether a value is null. -/
def isNull : Value → Bool
  | null => true
  | _ => false

/-- The text of a value that is a text. -/
def text? : Value → Option String
  | text value => some value
  | _ => none

mutual

/-- The text of a value: null has none, a list is its items' texts with commas between them. -/
def display : Value → String
  | null => ""
  | bool true => "true"
  | bool false => "false"
  | int value => toString value.toInt
  | float value => value.write .plain
  | text value => value
  | json value => value.print
  | list items => displayItems items

/-- The texts of values with commas between them. -/
def displayItems : List Value → String
  | [] => ""
  | [item] => display item
  | item :: next :: rest => display item ++ "," ++ displayItems (next :: rest)

end

mutual

/-- The JSON form of a value. -/
def toJson : Value → Json
  | null => .null
  | bool value => .bool value
  | int value => .int value.toInt
  | float value => .float value
  | text value => .text value
  | json value => value
  | list items => .array (toJsonItems items)

/-- The JSON forms of values, in order. -/
def toJsonItems : List Value → List Json
  | [] => []
  | item :: rest => toJson item :: toJsonItems rest

end

/-- The value that a JSON value is read as. -/
def ofJson : Json → Value
  | .null => null
  | .bool value => bool value
  | .int value =>
    if Int64.minValue.toInt ≤ value ∧ value ≤ Int64.maxValue.toInt then
      int (Int64.ofInt value)
    else float (Binary64.ofNat value.toNat)
  | .float value => float value
  | .text value => text value
  | .array items => json (.array items)
  | .object members => json (.object members)

/-- The JSON text of a value. -/
def print (value : Value) : String := value.toJson.print

/-- The value that a JSON text is read as. -/
def parse (document : String) : Option Value := (Json.parse document).map ofJson

/-- The values bound for one value: the items of a list, or the value itself. -/
def expansion : Value → List Value
  | list items => items
  | value => [value]

end Value

namespace Json

mutual

/-- Equality of JSON values, in which floating-point numbers are compared as numbers. -/
def equals : Json → Json → Bool
  | null, null => true
  | bool left, bool right => left == right
  | int left, int right => left == right
  | float left, float right => left.equals right
  | text left, text right => left == right
  | array left, array right => equalItems left right
  | object left, object right => equalMembers left right
  | _, _ => false

/-- Equality of lists of JSON values. -/
def equalItems : List Json → List Json → Bool
  | [], [] => true
  | left :: lefts, right :: rights => equals left right && equalItems lefts rights
  | _, _ => false

/-- Equality of the members of objects. -/
def equalMembers : List (String × Json) → List (String × Json) → Bool
  | [], [] => true
  | (leftName, left) :: lefts, (rightName, right) :: rights =>
    leftName == rightName && equals left right && equalMembers lefts rights
  | _, _ => false

end

end Json

namespace Value

mutual

/-- Equality of values, in which floating-point numbers are compared as numbers. -/
def equals : Value → Value → Bool
  | null, null => true
  | bool left, bool right => left == right
  | int left, int right => left == right
  | float left, float right => left.equals right
  | text left, text right => left == right
  | json left, json right => left.equals right
  | list left, list right => equalItems left right
  | _, _ => false

/-- Equality of lists of values. -/
def equalItems : List Value → List Value → Bool
  | [], [] => true
  | left :: lefts, right :: rights => equals left right && equalItems lefts rights
  | _, _ => false

end

end Value

/-- A type whose members can be bound to a query. -/
class ToValue (α : Type) where
  /-- The value that is bound. -/
  toValue : α → Value

export ToValue (toValue)

instance : ToValue Value := ⟨id⟩
instance : ToValue Bool := ⟨.bool⟩
instance : ToValue Int32 := ⟨fun value => .int value.toInt64⟩
instance : ToValue Int64 := ⟨.int⟩
instance : ToValue Binary64 := ⟨.float⟩
instance : ToValue String := ⟨.text⟩

/-- A list binds its members. -/
instance {α : Type} [ToValue α] : ToValue (List α) := ⟨fun items => .list (items.map toValue)⟩

/-- An absent member binds null. -/
instance {α : Type} [ToValue α] : ToValue (Option α) :=
  ⟨fun value => (value.map toValue).getD .null⟩

end Listing
