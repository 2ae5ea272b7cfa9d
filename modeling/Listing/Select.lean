import Listing.Fragment
import Listing.Query

/-!
# Select queries

A query collects conditions, orderings and a window on a table. Rendering it joins the conditions,
binds their values in order, so that placeholders are numbered through the whole query, and
returns the SQL with the parameters. Two or more conditions are put in parentheses.
-/
namespace Listing

/-- A condition of a query: a fragment and the values of its placeholders. -/
structure Clause where
  /-- The fragment. -/
  sql : String
  /-- The values, in the order of the placeholders. -/
  values : List Value

/-- A query for all columns of a table. -/
structure Select where
  /-- The name of the table. -/
  table : String
  /-- The dialect of the SQL. -/
  dialect : Dialect := .postgresql
  /-- The schema of the table's records, when it is known. -/
  schema : Option Schema := none
  /-- The conditions, all of which have to hold. -/
  clauses : List Clause := []
  /-- The orderings, the first first. -/
  orderings : List Ordering := []
  /-- The window on the result. -/
  window : Window := {}

namespace Select

/-- Add a condition. -/
def filterBy (query : Select) (sql : String) (values : List Value) : Select :=
  { query with clauses := query.clauses ++ [⟨sql, values⟩] }

/-- Add an ordering after those there are. -/
def orderBy (query : Select) (ordering : Ordering) : Select :=
  { query with orderings := query.orderings ++ [ordering] }

/-- Leave out rows at the start. -/
def skip (query : Select) (rows : UInt64) : Select :=
  { query with window := { query.window with skip := some rows } }

/-- Limit the number of rows. -/
def take (query : Select) (rows : UInt64) : Select :=
  { query with window := { query.window with take := some rows } }

instance : QueryBuilder Select where
  schema := schema
  filterBy := filterBy
  orderBy := orderBy
  skip := skip
  take := take

@[simp] theorem builder_schema (query : Select) : QueryBuilder.schema query = query.schema := rfl

@[simp] theorem builder_filterBy (query : Select) (sql : String) (values : List Value) :
    QueryBuilder.filterBy query sql values = query.filterBy sql values := rfl

/-- Bind conditions in order after parameters that are bound already. -/
def bindClauses (dialect : Dialect) :
    List Clause → List Value → Except Cause (List String × List Value)
  | [], parameters => .ok ([], parameters)
  | clause :: rest, parameters =>
    let bound := Fragment.bind dialect clause.sql clause.values parameters
    match bound.result with
    | .error mismatch => .error (mismatch.cause clause.sql)
    | .ok sql =>
      match bindClauses dialect rest bound.parameters with
      | .error cause => .error cause
      | .ok (others, parameters) => .ok (sql :: others, parameters)

/-- The conjunction of conditions; parentheses keep several of them apart. -/
def conjunction : List String → String
  | [] => ""
  | [condition] => condition
  | conditions => " AND ".intercalate (conditions.map fun condition => "(" ++ condition ++ ")")

/-- The SQL after the conditions. -/
def tail (query : Select) : String :=
  let order :=
    if query.orderings.isEmpty then ""
    else " ORDER BY " ++ ", ".intercalate (query.orderings.map Ordering.sql)
  let window := if query.window.isEmpty then "" else " " ++ query.window.sql
  order ++ window

/-- The SQL of a query and its parameters. -/
def render (query : Select) : Except Cause (String × List Value) :=
  match bindClauses query.dialect query.clauses [] with
  | .error cause => .error cause
  | .ok (conditions, parameters) =>
    let condition := if conditions.isEmpty then "" else " WHERE " ++ conjunction conditions
    .ok ("SELECT * FROM " ++ query.dialect.quote query.table ++ condition ++ query.tail,
      parameters)

end Select

end Listing
