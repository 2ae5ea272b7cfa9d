import Listing.Error
import Listing.Text.LetterCase

/-!
# SQL dialects

A dialect decides how identifiers are quoted and how placeholders are written. An identifier is
quoted by doubling every quote character inside it, so no name can end its quotes early.
-/
namespace Listing

/-- The dialect of a database. -/
inductive Dialect where
  /-- Numbered placeholders, double quotes. -/
  | postgresql
  /-- Anonymous placeholders, backquotes. -/
  | mysql
  /-- Anonymous placeholders, double quotes. -/
  | sqlite
  deriving DecidableEq, Repr, Inhabited

namespace Dialect

/-- The name of a dialect. -/
def name : Dialect → String
  | postgresql => "postgresql"
  | mysql => "mysql"
  | sqlite => "sqlite"

/-- The dialect of an exact name. -/
def ofName? (text : String) : Option Dialect :=
  [postgresql, mysql, sqlite].find? fun dialect => dialect.name == text

/-- The dialect of a name in any letter case, of which some dialects have two. -/
def parse (text : String) : Except Cause Dialect :=
  let known := Text.lowercase text
  if known = "postgres" ∨ known = "postgresql" then .ok postgresql
  else if known = "mysql" ∨ known = "mariadb" then .ok mysql
  else if known = "sqlite" then .ok sqlite
  else .error (.unknownDialect known)

/-- The placeholder of the parameter at a position, counted from one. -/
def placeholder : Dialect → Nat → String
  | postgresql, position => "$" ++ toString position
  | mysql, _ | sqlite, _ => "?"

/-- The character around identifiers. -/
def quoteChar : Dialect → Char
  | mysql => '\x60'
  | postgresql | sqlite => '\x22'

/-- Double every occurrence of a character. -/
def doubled (mark : Char) (cs : List Char) : List Char :=
  cs.flatMap fun c => if c = mark then [mark, mark] else [c]

/-- A character that is doubled stands twice. -/
theorem doubled_cons_self (mark : Char) (rest : List Char) :
    doubled mark (mark :: rest) = mark :: mark :: doubled mark rest := by
  rw [doubled, List.flatMap_cons, if_pos rfl]
  rfl

/-- Every other character stands as it is. -/
theorem doubled_cons_of_ne {mark c : Char} (other : c ≠ mark) (rest : List Char) :
    doubled mark (c :: rest) = c :: doubled mark rest := by
  rw [doubled, List.flatMap_cons, if_neg other]
  rfl

/-- An identifier in quotes. -/
def quote (dialect : Dialect) (identifier : String) : String :=
  let mark := dialect.quoteChar
  String.ofList (mark :: doubled mark identifier.toList ++ [mark])

/-- A column in quotes, after the quoted alias of its table when there is one. -/
def qualify (dialect : Dialect) (qualifier : Option String) (column : String) : String :=
  match qualifier with
  | none => dialect.quote column
  | some table =>
    if table.isEmpty then dialect.quote column
    else dialect.quote table ++ "." ++ dialect.quote column

end Dialect

end Listing
