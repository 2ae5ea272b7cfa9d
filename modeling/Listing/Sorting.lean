import Listing.Diagnostics
import Listing.Params
import Listing.Query
import Listing.Settings

/-!
# Sorting

The orderings of a request are a list of fields with commas between them; a minus sign in front of
a field asks for the descending direction. When the request has no list the default applies. A
field is sortable when it is allowed or stands in the default; other entries are passed over.
-/
namespace Listing

/-- How the results of a request are ordered. -/
structure Sorting where
  /-- The fields that requests may order by. -/
  fields : List String
  /-- The entries that apply when the request has no list. -/
  defaults : List String := []
  /-- The alias that qualifies columns. -/
  qualifier : Option String := none
  /-- The fields that the alias does not qualify. -/
  unqualified : List String := []
  /-- The settings. -/
  settings : Settings := {}
  /-- The parameters of the request, when one is bound. -/
  params : Option Params := none

namespace Sorting

/-- The field and the direction of an entry. -/
def readEntry : List Char → List Char × Direction
  | '-' :: field => (field, .descending)
  | field => (field, .ascending)

/-- The field of an entry. -/
def entryField (entry : String) : String := String.ofList (readEntry entry.toList).1

/-- Whether results may be ordered by a field. -/
def isSortable (sorting : Sorting) (field : String) : Bool :=
  sorting.fields.contains field || (sorting.defaults.map entryField).contains field

/-- The column of a field. -/
def column (sorting : Sorting) (field : String) : String :=
  let qualifier := sorting.qualifier.filter fun _ => !sorting.unqualified.contains field
  sorting.settings.dialect.qualify qualifier field

/-- The ordering that an entry asks for; none, when there is no field or it is not sortable. -/
def ordering? (sorting : Sorting) (entry : String) : Option Ordering :=
  let (field, direction) := readEntry (Text.trim entry.toList)
  let field := String.ofList field
  if !field.isEmpty && sorting.isSortable field then some ⟨sorting.column field, direction⟩
  else none

/-- The entries that apply to parameters. -/
def entries (sorting : Sorting) (params : Params) : List String :=
  match params.find? sorting.settings.sortParam with
  | some list => if list.isEmpty then sorting.defaults else Text.split ',' list
  | none => sorting.defaults

/-- The orderings of a request. -/
def orderings (sorting : Sorting) : Journal (Except Cause (List Ordering)) :=
  match sorting.params with
  | none => pure (.error .sortUnbound)
  | some params => do
    let orderings := (sorting.entries params).filterMap sorting.ordering?
    Journal.note (.orderingsResolved orderings.length)
    return .ok orderings

/-- Put the orderings of a request into a query. -/
def apply {Q : Type} [QueryBuilder Q] (sorting : Sorting) (query : Q) :
    Journal (Except Cause Q) := do
  let orderings ← sorting.orderings
  return orderings.map fun orderings => orderings.foldl QueryBuilder.orderBy query

end Sorting

end Listing
