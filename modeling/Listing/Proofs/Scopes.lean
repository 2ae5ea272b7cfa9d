import Listing.Page
import Listing.Proofs.Compilation
import Listing.Proofs.Quoting
import Listing.Proofs.Rendering
import Listing.Sorting

/-!
# Scopes of a listing

A listing applies a filter, an order and a page to a query, in any order. Each of them writes into
a part of the query of its own. Main statements: `apply_eq` says what one scope writes,
`applyAll_eq` what several write and when they fail, and `render_listing` that a filter, an order
and a page always leave a query that renders, whatever the request asks for.
-/
namespace Listing

namespace Filter

/-- The column of a field is complete and has no holes, whatever its name. -/
theorem complete_column (filter : Filter) (schema : Option Schema) (field : String) :
    Fragment.Complete (filter.column schema field).toList 0 := by
  have qualified := filter.settings.dialect.complete_qualify filter.qualifier field
  rw [column]
  split
  · exact complete_truncateToDate qualified
  · exact qualified

/-- The conditions of parameters are complete, with a hole for each value that they bind. -/
theorem complete_conditions {filter : Filter} {schema : Option Schema}
    {entries : List (String × String)} {condition : Condition}
    (member : condition ∈ filter.conditions schema entries) :
    Fragment.Complete condition.sql.toList condition.value.toList.length := by
  obtain ⟨entry, _, field, operator, value, _, _, rfl⟩ := mem_conditions member
  exact operator.complete_condition value (filter.complete_column schema field)

/-- The condition that a filter adds has no fault. -/
theorem fault?_clause? {filter : Filter} {schema : Option Schema} {clause : Clause}
    (added : filter.clause? schema = some clause) : clause.holes = clause.values.length := by
  rw [clause?, Compiled.condition?] at added
  split at added
  · contradiction
  · obtain rfl := Option.some.inj added
    rw [Clause.holes, compile_value]
    exact (complete_intercalate fun condition member => complete_conditions member).holes_layout

/-- The parameters of the condition that a filter adds are its compiled values, with the items in
place of each list. -/
theorem parameters_clause? (filter : Filter) (schema : Option Schema) :
    (filter.clause? schema).toList.flatMap Clause.parameters
      = (filter.compile schema).value.values.flatMap Value.expansion := by
  rw [clause?, Compiled.condition?, Compiled.isEmpty]
  split
  · rename_i empty
    rw [compile_value] at empty ⊢
    have none : filter.conditions schema filter.parameters.value.entries = [] := by
      simpa using empty
    simp [none]
  · simp [Clause.parameters]

end Filter

/-- Orderings are added at the end, and nothing else changes. -/
theorem Select.foldl_orderBy (query : Select) (orderings : List Ordering) :
    orderings.foldl Select.orderBy query
      = { query with orderings := query.orderings ++ orderings } := by
  induction orderings generalizing query with
  | nil => simp
  | cons ordering rest ih =>
    rw [List.foldl_cons, ih]
    simp [Select.orderBy]

/-- An order that is bound to a request adds the orderings that the request asks for at the end and
changes nothing else. -/
theorem Sorting.apply_value {sorting : Sorting} {params : Params}
    (bound : sorting.params = some params) (query : Select) :
    (sorting.apply query).value = .ok { query with
      orderings := query.orderings ++ (sorting.entries params).filterMap sorting.ordering? } := by
  rw [Sorting.apply, Sorting.orderings, bound, ← Select.foldl_orderBy]
  rfl

/-- The orderings that the request of an order asks for; without a request there are none. -/
def Sorting.requested (sorting : Sorting) : List Ordering :=
  sorting.params.toList.flatMap fun params =>
    (sorting.entries params).filterMap sorting.ordering?

/-- An order that is bound to a request asks for the orderings of the entries that apply to it. -/
theorem Sorting.requested_eq {sorting : Sorting} {params : Params}
    (bound : sorting.params = some params) :
    sorting.requested = (sorting.entries params).filterMap sorting.ordering? := by
  rw [requested, bound]
  exact List.append_nil _

/-- An order that is bound to no request fails on every query. -/
theorem Sorting.apply_unbound {sorting : Sorting} (unbound : sorting.params = none)
    (query : Select) : (sorting.apply query).value = .error .sortUnbound := by
  rw [Sorting.apply, Sorting.orderings, unbound]
  rfl

/-- A part of a listing that writes into a query. -/
inductive Scope where
  /-- A filter adds a condition. -/
  | filter (filter : Filter)
  /-- An order adds orderings. -/
  | sorting (sorting : Sorting)
  /-- A page sets the window. -/
  | page (page : Page)

namespace Scope

/-- Apply a scope to a query. -/
def apply : Scope → Select → Journal (Except Cause Select)
  | filter scope, query => do return .ok (← scope.apply query)
  | sorting scope, query => scope.apply query
  | page scope, query => do return .ok (← scope.apply query)

/-- Apply scopes to a query in order, as long as none fails. -/
def applyAll : List Scope → Select → Journal (Except Cause Select)
  | [], query => pure (.ok query)
  | scope :: rest, query => do
    match ← scope.apply query with
    | .ok query => applyAll rest query
    | .error cause => return .error cause

/-- Whether a scope has no handlers, which could do anything to a query. -/
def Plain : Scope → Prop
  | filter scope => scope.handlers = []
  | sorting _ => True
  | page _ => True

/-- Whether a scope has what it needs: an order needs a request. -/
def isBound : Scope → Bool
  | filter _ => true
  | sorting scope => scope.params.isSome
  | page _ => true

/-- Whether a scope can be applied: its filter has no handlers, and its order is bound to a
request. -/
def Ready : Scope → Prop
  | filter scope => scope.handlers = []
  | sorting scope => scope.params.isSome
  | page _ => True

/-- The conditions that a scope adds to a query. -/
def clauses (schema : Option Schema) : Scope → List Clause
  | filter scope => (scope.clause? schema).toList
  | sorting _ => []
  | page _ => []

/-- The orderings that a scope adds to a query. -/
def orderings : Scope → List Ordering
  | filter _ => []
  | sorting scope => scope.requested
  | page _ => []

/-- The window that a scope gives to a query. -/
def window? : Scope → Option Window
  | filter _ => none
  | sorting _ => none
  | page scope => some { skip := some scope.cursor.offset, take := some scope.cursor.pageSize }

/-- The query with what scopes write into it: their conditions and their orderings follow those
there are, and of their windows the last counts. -/
def writeAll (scopes : List Scope) (query : Select) : Select :=
  { query with
    clauses := query.clauses ++ scopes.flatMap (clauses query.schema)
    orderings := query.orderings ++ scopes.flatMap orderings
    window := (scopes.filterMap window?).getLastD query.window }

/-- What scopes write is what the first writes and then what the others write. -/
theorem writeAll_cons (scope : Scope) (rest : List Scope) (query : Select) :
    writeAll (scope :: rest) query = writeAll rest (writeAll [scope] query) := by
  have last : ((scope :: rest).filterMap window?).getLastD query.window
      = (rest.filterMap window?).getLastD (([scope].filterMap window?).getLastD query.window) := by
    cases scope with
    | filter => rfl
    | sorting => rfl
    | page => exact List.getLastD_cons
  rw [writeAll, last]
  simp only [writeAll, List.flatMap_cons, List.flatMap_nil, List.append_nil, List.append_assoc]

/-- A scope without handlers writes into its own part of the query, unless it lacks a request. -/
theorem apply_eq {scope : Scope} (plain : scope.Plain) (query : Select) :
    (scope.apply query).value
      = if scope.isBound then .ok (writeAll [scope] query) else .error .sortUnbound := by
  cases scope with
  | filter scope =>
    rw [isBound, if_pos rfl]
    refine (congrArg Except.ok (scope.apply_value plain query)).trans ?_
    simp [writeAll, clauses, orderings, window?]
  | sorting scope =>
    cases bound : scope.params with
    | none =>
      rw [isBound, bound]
      exact scope.apply_unbound bound query
    | some params =>
      rw [isBound, bound]
      refine (scope.apply_value bound query).trans ?_
      simp [writeAll, clauses, orderings, window?, Sorting.requested_eq bound]
  | page scope => exact congrArg Except.ok (by simp [writeAll, clauses, orderings, window?]; rfl)

/-- Scopes without handlers write into the query one after the other, unless one of them lacks a
request. -/
theorem applyAll_eq {scopes : List Scope} (plain : ∀ scope ∈ scopes, scope.Plain)
    (query : Select) :
    (applyAll scopes query).value
      = if scopes.all isBound then .ok (writeAll scopes query) else .error .sortUnbound := by
  induction scopes generalizing query with
  | nil => simp [applyAll, writeAll]
  | cons scope rest ih =>
    have first := apply_eq (plain scope List.mem_cons_self) query
    have later := ih (fun scope member => plain scope (List.mem_cons_of_mem _ member))
      (writeAll [scope] query)
    rw [applyAll, Journal.value_bind, first, List.all_cons]
    cases scope.isBound with
    | false => rfl
    | true =>
      rw [writeAll_cons scope rest]
      exact later

/-- Scopes that are ready add their conditions in order. -/
theorem applyAll_value {scopes : List Scope} (ready : ∀ scope ∈ scopes, scope.Ready)
    (query : Select) :
    ∃ after, (applyAll scopes query).value = .ok after ∧ after.table = query.table
      ∧ after.dialect = query.dialect ∧ after.schema = query.schema
      ∧ after.clauses = query.clauses ++ scopes.flatMap (clauses query.schema) := by
  have plain : ∀ scope ∈ scopes, scope.Plain := by
    intro scope member
    cases scope with
    | filter => exact ready _ member
    | sorting => trivial
    | page => trivial
  have bound : scopes.all isBound := by
    refine List.all_eq_true.2 fun scope member => ?_
    cases scope with
    | filter => rfl
    | sorting => exact ready _ member
    | page => rfl
  refine ⟨writeAll scopes query, ?_, rfl, rfl, rfl, rfl⟩
  rw [applyAll_eq plain, if_pos bound]

/-- A filter, an order that is bound to a request and a page are ready in any order. -/
theorem ready_of_perm {filter : Filter} {sorting : Sorting} {page : Page}
    (noHandlers : filter.handlers = []) (bound : sorting.params.isSome) {scopes : List Scope}
    (all : scopes.Perm [.filter filter, .sorting sorting, .page page]) :
    ∀ scope ∈ scopes, scope.Ready := by
  intro scope member
  have listed := all.mem_iff.1 member
  simp only [List.mem_cons, List.not_mem_nil, or_false] at listed
  rcases listed with rfl | rfl | rfl
  · exact noHandlers
  · exact bound
  · trivial

/-- A filter, an order and a page add the condition of the filter alone, in whatever order they are
applied. -/
theorem clauses_of_perm {filter : Filter} {sorting : Sorting} {page : Page} {scopes : List Scope}
    (all : scopes.Perm [.filter filter, .sorting sorting, .page page])
    (schema : Option Schema) :
    scopes.flatMap (clauses schema) = (filter.clause? schema).toList := by
  have permuted := all.flatMap_right (clauses schema)
  cases one : filter.clause? schema with
  | none => exact List.Perm.eq_nil (by simpa [clauses, one] using permuted)
  | some clause => exact List.perm_singleton.1 (by simpa [clauses, one] using permuted)

end Scope

/-- A filter without handlers, an order and a page leave, in any order, a query that renders, with
as many placeholders as parameters, none of which is a list. -/
theorem render_listing (table : String) (dialect : Dialect) (schema : Option Schema)
    (filter : Filter) (sorting : Sorting) (page : Page) (noHandlers : filter.handlers = [])
    (request : Params) (bound : sorting.params = some request) (scopes : List Scope)
    (all : scopes.Perm [.filter filter, .sorting sorting, .page page]) :
    let compiled := (filter.compile schema).value
    ∃ query sql parameters,
      (Scope.applyAll scopes { table, dialect, schema }).value = .ok query
        ∧ query.render = .ok (sql, parameters)
        ∧ parameters = compiled.values.flatMap Value.expansion
        ∧ (∀ parameter ∈ parameters, ∀ items, parameter ≠ .list items)
        ∧ (∀ items, .list items ∈ compiled.values → items ≠ [])
        ∧ sql = "SELECT * FROM " ++ dialect.quote table
            ++ String.ofList (Fragment.fill
              ((List.range' 1 parameters.length).map dialect.placeholder)
              (Select.whereLayout query.clauses))
            ++ query.tail
        ∧ Fragment.holes (Select.whereLayout query.clauses) = parameters.length := by
  intro compiled
  have ready := Scope.ready_of_perm noHandlers (Option.isSome_iff_exists.2 ⟨request, bound⟩) all
  obtain ⟨query, applied, sameTable, sameDialect, _, added⟩ :=
    Scope.applyAll_value ready { table, dialect, schema }
  have clauses : query.clauses = (filter.clause? schema).toList := by
    rw [added, Scope.clauses_of_perm all, List.nil_append]
  have sound : ∀ clause ∈ query.clauses, clause.holes = clause.values.length := by
    intro clause member
    rw [clauses, Option.mem_toList] at member
    exact Filter.fault?_clause? member
  have parameters : query.parameters = compiled.values.flatMap Value.expansion := by
    rw [Select.parameters, clauses, filter.parameters_clause?]
  have rendered := Select.render_eq_ok_iff.2 ⟨sound, rfl, rfl⟩
  refine ⟨query, _, _, applied, rendered, parameters, ?_, ?_, ?_, ?_⟩
  · intro parameter member
    rw [parameters] at member
    obtain ⟨value, inside, item⟩ := List.mem_flatMap.1 member
    exact (Filter.plain_values inside).flat parameter item
  · intro items member
    exact (Filter.plain_values member).expansion_ne_nil
  · rw [sameTable, sameDialect]
    rfl
  · rw [Select.holes_whereLayout sound]
    rfl

/-- Quotes and question marks in every name, in the alias and in the value do not keep a listing
from rendering. -/
theorem render_listing_hostile_names :
    let request : Params :=
      { entries := [("a\"?__in", "x,?'y")], ascending := List.pairwise_singleton _ _ }
    let filter : Filter :=
      { fields := ["a\"?"], qualifier := some "\x60?\"", params := some request }
    let sorting : Sorting := { fields := [], defaults := ["-b'?"], params := some request }
    let page : Page := { total := 3, params := request }
    filter.handlers = [] ∧ sorting.params = some request ∧ ∃ query sql,
      (Scope.applyAll [.page page, .sorting sorting, .filter filter]
          { table := "t'?", dialect := .mysql }).value = .ok query
        ∧ query.render = .ok (sql, [.text "x", .text "?'y"]) := by
  intro request filter sorting page
  obtain ⟨query, sql, parameters, applied, rendered, compiled, _⟩ :=
    render_listing "t'?" .mysql none filter sorting page rfl request rfl
      [.page page, .sorting sorting, .filter filter] (List.reverse_perm [_, _, _])
  have values : (filter.compile none).value.values.flatMap Value.expansion
      = [.text "x", .text "?'y"] := by rfl
  exact ⟨rfl, rfl, query, sql, applied, values ▸ compiled ▸ rendered⟩

end Listing
