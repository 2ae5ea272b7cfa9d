import Listing.Schema

/-!
# Parts of queries

An ordering is a column, already quoted, and a direction. A window leaves out some rows at the start
of a result and limits the number of rows after them; each of the two may be absent. A filter, an
order and a page never run a query: they write into whatever an application builds its queries with,
and need no more of it than a `QueryBuilder` has.
-/
namespace Listing

/-! ## Orderings -/

/-- The direction of an ordering. -/
inductive Direction where
  /-- The least value first. -/
  | ascending
  /-- The greatest value first. -/
  | descending
  deriving DecidableEq, Repr, Inhabited

namespace Direction

/-- The SQL keyword of a direction. -/
def keyword : Direction → String
  | ascending => "ASC"
  | descending => "DESC"

/-- The name of a direction in documents. -/
def name : Direction → String
  | ascending => "Asc"
  | descending => "Desc"

/-- The direction of an exact name. -/
def ofName? (text : String) : Option Direction :=
  [ascending, descending].find? fun direction => direction.name == text

end Direction

/-- A column by which a result is ordered, and the direction. -/
structure Ordering where
  /-- The column, already quoted. -/
  column : String
  /-- The direction. -/
  direction : Direction
  deriving DecidableEq, Repr

/-- The SQL of an ordering. -/
def Ordering.sql (ordering : Ordering) : String :=
  ordering.column ++ " " ++ ordering.direction.keyword

/-! ## Windows -/

/-- The rows left out and the rows taken. -/
structure Window where
  /-- The number of rows left out at the start. -/
  skip : Option UInt64 := none
  /-- The greatest number of rows after them. -/
  take : Option UInt64 := none
  deriving DecidableEq, Repr

/-- A computation that has no answer because a number leaves its range. -/
inductive Overflow where
  /-- A product exceeds the unsigned 64-bit range. -/
  | product
  deriving DecidableEq, Repr

/-- The wording of an overflow. -/
def Overflow.message : Overflow → String
  | .product => "attempt to multiply with overflow"

namespace Window

/-- Whether a window leaves everything as it is. -/
def isEmpty (window : Window) : Bool := window.skip.isNone && window.take.isNone

/-- The window of a page, counted from one, of a size. The page zero is read as the first. -/
def ofPage (page size : UInt64) : Except Overflow Window :=
  let before := (page.toNat - 1) * size.toNat
  if before < UInt64.size then .ok { skip := some (UInt64.ofNat before), take := some size }
  else .error .product

/-- The SQL of a window: the limit, a space, and the offset, each when there is one. -/
def sql (window : Window) : String :=
  let limit := window.take.map fun rows => "LIMIT " ++ toString rows.toNat
  let offset := window.skip.map fun rows => "OFFSET " ++ toString rows.toNat
  match limit, offset with
  | some limit, some offset => limit ++ " " ++ offset
  | some limit, none => limit
  | none, some offset => offset
  | none, none => ""

end Window

/-! ## Builders -/

/-- What builds a query. -/
class QueryBuilder (Q : Type) where
  /-- The schema of the records that a query is for, when it is known. -/
  schema : Q → Option Schema
  /-- Add a condition with the values of its placeholders. -/
  filterBy : Q → String → List Value → Q
  /-- Add an ordering after those there are. -/
  orderBy : Q → Ordering → Q
  /-- Leave out rows at the start. -/
  skip : Q → UInt64 → Q
  /-- Limit the number of rows. -/
  take : Q → UInt64 → Q

end Listing
