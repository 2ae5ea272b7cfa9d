import Listing.Binary64.Layout
import Listing.Entries

/-!
# JSON values and their text

A JSON number is an integer of the 64-bit ranges or a floating-point number; an object holds its
members in ascending order of their names, and of several members of one name the last. A value is
written without any space. In a text only the quote, the backslash and the controls are escaped,
with the short escape where there is one.
-/
namespace Listing

/-- A JSON value. -/
inductive Json where
  /-- The value `null`. -/
  | null
  /-- A truth value. -/
  | bool (value : Bool)
  /-- A whole number from the least signed to the greatest unsigned 64-bit integer. -/
  | int (value : Int)
  /-- Any other number. -/
  | float (value : Binary64)
  /-- A text. -/
  | text (value : String)
  /-- A list of values. -/
  | array (items : List Json)
  /-- Named values, in ascending order of their names. -/
  | object (members : List (String × Json))
  deriving Inhabited

namespace Json

/-- The object that members in the order of a document make. -/
def ofMembers (members : List (String × Json)) : Json := object (Entries.ofList members)

/-- The member of an object under a name. -/
def member? (name : String) : Json → Option Json
  | object members => Keyed.find? members name
  | _ => none

/-! ## Text -/

/-- How a character is written inside a JSON text. -/
def escapeChar (c : Char) : List Char :=
  if c = '\x22' then ['\\', '\x22']
  else if c = '\\' then ['\\', '\\']
  else if c = '\n' then ['\\', 'n']
  else if c = '\r' then ['\\', 'r']
  else if c = '\t' then ['\\', 't']
  else if c.toNat = 0x8 then ['\\', 'b']
  else if c.toNat = 0xC then ['\\', 'f']
  else if c.toNat < 0x10 then ['\\', 'u', '0', '0', '0'] ++ Nat.toDigits 16 c.toNat
  else if c.toNat < 0x20 then ['\\', 'u', '0', '0'] ++ Nat.toDigits 16 c.toNat
  else [c]

/-- A text between quotes. -/
def quote (text : String) : String :=
  String.ofList ('\x22' :: text.toList.flatMap escapeChar ++ ['\x22'])

mutual

/-- The compact text of a value. -/
def print : Json → String
  | null => "null"
  | bool true => "true"
  | bool false => "false"
  | int value => toString value
  | float value => value.write .json
  | text value => quote value
  | array items => "[" ++ printItems items ++ "]"
  | object members => "\x7b" ++ printMembers members ++ "\x7d"

/-- The texts of values with commas between them. -/
def printItems : List Json → String
  | [] => ""
  | [item] => print item
  | item :: next :: rest => print item ++ "," ++ printItems (next :: rest)

/-- The members of an object with commas between them. -/
def printMembers : List (String × Json) → String
  | [] => ""
  | [(name, value)] => quote name ++ ":" ++ print value
  | (name, value) :: next :: rest =>
    quote name ++ ":" ++ print value ++ "," ++ printMembers (next :: rest)

end

/-- Members written in the order given, for records whose members have an order of their own. -/
def printRecord (members : List (String × Json)) : String :=
  "\x7b" ++ printMembers members ++ "\x7d"

end Json

end Listing
