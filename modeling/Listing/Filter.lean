import Listing.Handler
import Listing.Operator
import Listing.Params
import Listing.Schema
import Listing.Settings

/-!
# Filters

A filter turns the parameters of a request into conditions on a query. Each parameter is worked on
alone, in ascending order of the names: it adds a predicate with at most one value, is set aside
for its handler, or is passed over. The columns of predicates come from the filter's own list of
fields and never from the request; the request supplies values.
-/
namespace Listing

/-- What the parameters of a request are compiled to. -/
structure Compiled where
  /-- The predicates, each with at most one placeholder. -/
  predicates : List String := []
  /-- The values of the placeholders, in order. -/
  values : List Value := []
  /-- The special parameters with their texts. -/
  pending : List (String × String) := []

namespace Compiled

/-- The contributions of earlier parameters followed by those of later ones. -/
def append (earlier later : Compiled) : Compiled where
  predicates := earlier.predicates ++ later.predicates
  values := earlier.values ++ later.values
  pending := earlier.pending ++ later.pending

/-- The contribution of a condition. -/
def ofCondition (condition : Condition) : Compiled where
  predicates := [condition.sql]
  values := condition.value.toList

/-- Whether there is no predicate. -/
def isEmpty (compiled : Compiled) : Bool := compiled.predicates.isEmpty

/-- The predicates joined to one condition. -/
def joined (compiled : Compiled) : String := " AND ".intercalate compiled.predicates

/-- The condition of all predicates, when there is one. -/
def condition? (compiled : Compiled) : Option String :=
  if compiled.isEmpty then none else some compiled.joined

end Compiled

/-- A filter, of the kind of queries that its handlers work on. -/
structure Filter (Q : Type := Select) where
  /-- The fields that parameters may name. -/
  fields : List String
  /-- The handlers of special parameters. -/
  handlers : Handlers Q := []
  /-- Whether points in time are compared by their dates. -/
  forceDate : Bool := false
  /-- A URI whose parameters take the place of those of the request; the empty text is none. -/
  uri : Option String := none
  /-- The alias that qualifies columns. -/
  qualifier : Option String := none
  /-- The settings. -/
  settings : Settings := {}
  /-- The parameters of the request, when one is bound. -/
  params : Option Params := none

namespace Filter

variable {Q : Type}

/-- The parameters that the filter works on. A URI that cannot be read leaves none. -/
def parameters (filter : Filter Q) : Journal Params :=
  match filter.uri.filter fun uri => !uri.isEmpty with
  | some uri =>
    match Params.ofUri uri with
    | .ok params => pure params
    | .error cause => do
      Journal.note (.uriUnreadable uri cause)
      return Params.empty
  | none =>
    match filter.params with
    | some params => pure params
    | none => do
      Journal.note .requestUnbound
      return Params.empty

/-- The column of a field, as its date if that is asked for. -/
def column (filter : Filter Q) (schema : Option Schema) (field : String) : String :=
  let column := filter.settings.dialect.qualify filter.qualifier field
  if filter.forceDate && schema.any (·.isTemporal field) then truncateToDate column else column

/-- What a parameter asks for; the reserved parameters ask for nothing. -/
def role (filter : Filter Q) (key : String) : Option Role :=
  if filter.settings.reserved.contains key then none
  else Role.ofKey filter.fields filter.handlers.hasKey key

/-- The contribution of a single parameter. -/
def contribution (filter : Filter Q) (schema : Option Schema) (key text : String) :
    Journal Compiled :=
  match filter.role key with
  | none => pure {}
  | some (.special key) => pure { pending := [(key, text)] }
  | some (.field field operator) => do
    match ← coerce schema field text with
    | .ok value =>
      return Compiled.ofCondition (operator.condition (filter.column schema field) value)
    | .error cause =>
      Journal.note (.valueUnreadable key cause)
      return {}

/-- The contributions of parameters in order. -/
def contributions (filter : Filter Q) (schema : Option Schema) :
    List (String × String) → Journal Compiled
  | [] => pure {}
  | (key, text) :: rest => do
    let first ← filter.contribution schema key text
    let later ← contributions filter schema rest
    return first.append later

/-- Compile the parameters of a request. -/
def compile (filter : Filter Q) (schema : Option Schema) : Journal Compiled := do
  let params ← filter.parameters
  let compiled ← filter.contributions schema params.entries
  Journal.note
    (.filterCompiled compiled.joined compiled.values.length compiled.pending.length)
  return compiled

/-- Put the compiled condition into a query and run the handlers of special parameters. -/
def apply [QueryBuilder Q] (filter : Filter Q) (query : Q) : Journal Q := do
  let compiled ← filter.compile (QueryBuilder.schema query)
  let query :=
    match compiled.condition? with
    | some condition => QueryBuilder.filterBy query condition compiled.values
    | none => query
  filter.handlers.dispatch compiled.pending query

/-- A description of an optional text. -/
def describeOption : Option String → String
  | none => "None"
  | some text => "Some(" ++ Text.quoted text ++ ")"

/-- A description of a filter. -/
def describe (filter : Filter Q) : String :=
  "FilterScope \x7b fields: " ++ Text.quotedList filter.fields
    ++ ", special: " ++ filter.handlers.describe
    ++ ", force_date: " ++ toString filter.forceDate
    ++ ", from_uri: " ++ describeOption filter.uri
    ++ ", alias: " ++ describeOption filter.qualifier ++ ", .. \x7d"

end Filter

end Listing
