import Listing.Diagnostics
import Listing.Entries
import Listing.Select

/-!
# Handlers of special parameters

A parameter for which a handler is registered is not compiled. Its handler receives the text of the
parameter as it came and changes the query as it likes. Handlers run in the order in which their
keys were first registered.
-/
namespace Listing

/-- A handler changes a query by the text of a parameter. -/
abbrev Handler (Q : Type := Select) := String → Q → Q

/-- Handlers by the keys of their parameters. -/
abbrev Handlers (Q : Type := Select) := Registry (Handler Q)

namespace Handlers

variable {Q : Type}

/-- Run the handlers whose keys have texts waiting for them. -/
def dispatch : Handlers Q → List (String × String) → Q → Journal Q
  | [], _, query => pure query
  | (key, handler) :: rest, pending, query =>
    match pending.lookup key with
    | none => dispatch rest pending query
    | some text => do
      Journal.note (.handlerRuns key)
      dispatch rest pending (handler text query)

/-- A description of the handlers that names their keys. -/
def describe (handlers : Handlers Q) : String :=
  "SpecialFilters \x7b keys: " ++ Text.quotedList handlers.keys ++ " \x7d"

end Handlers

/-- A value that a handler binds. -/
inductive Template where
  /-- A value that does not depend on the parameter. -/
  | fixed (value : Value)
  /-- The text of the parameter with text before and after it. -/
  | around (before after : String)
  /-- The integer that the parameter spells, or a default. -/
  | intOr (default : Int64)

/-- The value of a template for the text of a parameter. -/
def Template.value (text : String) : Template → Value
  | fixed value => value
  | around before after => .text (before ++ text ++ after)
  | intOr default =>
    match Text.readInt64 text.toList with
    | .ok number => .int number
    | .error _ => .int default

/-- A single change to a query. -/
inductive Action where
  /-- Add a condition. -/
  | filterBy (sql : String) (values : List Template)
  /-- Add an ordering. -/
  | orderBy (ordering : Ordering)
  /-- Leave out rows at the start. -/
  | skip (rows : UInt64)
  /-- Limit the number of rows. -/
  | take (rows : UInt64)

/-- Carry out a change for the text of a parameter. -/
def Action.run (text : String) (query : Select) : Action → Select
  | filterBy sql values => query.filterBy sql (values.map (Template.value text))
  | orderBy ordering => query.orderBy ordering
  | skip rows => query.skip rows
  | take rows => query.take rows

/-- The handler that carries out changes in order. -/
def Handler.ofActions (actions : List Action) : Handler := fun text query =>
  actions.foldl (Action.run text) query

end Listing
