import Listing.Binary64.Basic
import Listing.Entries

/-!
# TOML values

A document is a table. A table remembers how it came about, because that decides what may be added
to it later: a key with dots adds only to tables that such keys made, passes through tables that
exist for the sake of others, and never enters a table that is declared or complete; a header
enters every table that is not complete, and declares a table once.
-/
namespace Listing.Toml

/-- How a table came about. -/
inductive Origin where
  /-- A header names it. -/
  | declared
  /-- A header names a table inside it. -/
  | implied
  /-- A key with dots names something inside it. -/
  | dotted
  /-- It stands complete between braces. -/
  | complete
  deriving DecidableEq, Repr

/-- A TOML value. -/
inductive Item where
  /-- A text. -/
  | string (value : String)
  /-- An integer of the signed 64-bit range. -/
  | integer (value : Int)
  /-- A floating-point number. -/
  | float (value : Binary64)
  /-- A truth value. -/
  | boolean (value : Bool)
  /-- A date, a time, or both. -/
  | moment
  /-- A list of values. -/
  | array (items : List Item)
  /-- A table. -/
  | table (origin : Origin) (entries : List (String × Item))
  /-- A list of tables, each of which a header begins. -/
  | tables (elements : List (List (String × Item)))
  deriving Inhabited

/-- The entries of a table, in the order of the document. -/
abbrev Table := Registry Item

/-- A key with dots: the tables to go through and the name in the last of them. -/
structure Key where
  /-- The names of the tables, the outermost first. -/
  path : List String
  /-- The name. -/
  name : String
  deriving DecidableEq, Repr

namespace Table

/-- Whether a key with dots may go through a table, which may be the last on its way. -/
def admitsDotted (isLast : Bool) : Origin → Bool
  | .dotted => true
  | .implied => !isLast
  | .declared | .complete => false

/-- Put a value under a name in the table that a path leads to. -/
def putAt (name : String) (item : Item) : List String → Table → Option Table
  | [], table => if table.hasKey name then none else some (table.register name item)
  | key :: path, table =>
    match table.find? key with
    | none => (putAt name item path []).map fun inner =>
      table.register key (.table .dotted inner)
    | some (.table origin inner) =>
      if admitsDotted path.isEmpty origin then
        (putAt name item path inner).map fun inner => table.register key (.table origin inner)
      else none
    | some (.tables elements) =>
      match path, elements.reverse with
      | _ :: _, last :: earlier => (putAt name item path last).map fun last =>
        table.register key (.tables (earlier.reverse ++ [last]))
      | _, _ => none
    | some _ => none

/-- Put a value under a key. -/
def put (table : Table) (pair : Key × Item) : Option Table :=
  putAt pair.1.name pair.2 pair.1.path table

/-- Change the table that the path of a header leads to; of a list of tables it is the last. -/
def changeAt (change : Table → Option Table) : List String → Table → Option Table
  | [], table => change table
  | key :: path, table =>
    match table.find? key with
    | none => (changeAt change path []).map fun inner =>
      table.register key (.table .implied inner)
    | some (.table origin inner) =>
      if origin = .complete then none
      else (changeAt change path inner).map fun inner =>
        table.register key (.table origin inner)
    | some (.tables elements) =>
      match elements.reverse with
      | last :: earlier => (changeAt change path last).map fun last =>
        table.register key (.tables (earlier.reverse ++ [last]))
      | [] => none
    | some _ => none

/-- Declare a table with its entries, which join those that headers of tables inside it have put
there. The table moves to the end of the one it stands in. -/
def declare (name : String) (pairs : List (Key × Item)) (table : Table) : Option Table :=
  let start : Option Table :=
    match table.find? name with
    | none => some []
    | some (.table .implied inner) => some inner
    | some _ => none
  start.bind fun start => (pairs.foldlM put start).map fun filled =>
    table.filter (·.1 != name) ++ [(name, .table .declared filled)]

/-- Add a table with its entries to a list of tables. -/
def extend (name : String) (pairs : List (Key × Item)) (table : Table) : Option Table :=
  let elements :=
    match table.find? name with
    | none => some []
    | some (.tables elements) => some elements
    | some _ => none
  elements.bind fun elements => (pairs.foldlM put []).map fun filled =>
    table.register name (.tables (elements ++ [filled]))

end Table

end Listing.Toml
