import Listing.Proofs.Scopes

/-!
# Scopes in any order

A filter writes conditions into a query, an order writes orderings and a page the window, and none
of them reads what another writes. So only the order of scopes of one kind matters. Main statements:
`applyAll_eq_of_parts` for any number of scopes of each kind, and `scopes_commute` for one of each.
-/
namespace Listing

/-- The parts of a query that scopes write into. -/
inductive QueryPart where
  /-- The conditions. -/
  | clauses
  /-- The orderings. -/
  | orderings
  /-- The window. -/
  | window
  deriving DecidableEq

namespace Scope

/-- The part of a query that a scope writes into. -/
def part : Scope → QueryPart
  | filter _ => .clauses
  | sorting _ => .orderings
  | page _ => .window

/-- Only the scopes of one part matter to what is written into that part. -/
theorem flatMap_part {α : Type} {write : Scope → List α} {part : QueryPart}
    (other : ∀ scope : Scope, scope.part ≠ part → write scope = []) (scopes : List Scope) :
    (scopes.filter fun scope => scope.part = part).flatMap write = scopes.flatMap write := by
  induction scopes with
  | nil => rfl
  | cons scope rest ih =>
    rw [List.filter_cons, List.flatMap_cons]
    by_cases own : scope.part = part
    · rw [if_pos (decide_eq_true own), List.flatMap_cons, ih]
    · rw [if_neg (by simpa using own), other scope own, List.nil_append, ih]

/-- Scopes write the same into a query as others do that have the same scopes of each part in the
same order. -/
theorem writeAll_eq_of_parts {first second : List Scope}
    (same : ∀ part, (first.filter fun scope => scope.part = part)
      = second.filter fun scope => scope.part = part) (query : Select) :
    writeAll first query = writeAll second query := by
  have agree {α : Type} {write : Scope → List α} (part : QueryPart)
      (other : ∀ scope : Scope, scope.part ≠ part → write scope = []) :
      first.flatMap write = second.flatMap write := by
    rw [← flatMap_part other first, same part, flatMap_part other second]
  have conditions : first.flatMap (clauses query.schema) = second.flatMap (clauses query.schema) :=
    agree .clauses fun scope other => by cases scope <;> first | rfl | contradiction
  have ordered : first.flatMap orderings = second.flatMap orderings :=
    agree .orderings fun scope other => by cases scope <;> first | rfl | contradiction
  have windows : first.filterMap window? = second.filterMap window? := by
    rw [List.filterMap_eq_flatMap_toList, List.filterMap_eq_flatMap_toList]
    exact agree .window fun scope other => by cases scope <;> first | rfl | contradiction
  rw [writeAll, writeAll, conditions, ordered, windows]

/-- Whether scopes fail depends on the orders among them alone. -/
theorem all_isBound_eq (scopes : List Scope) :
    scopes.all isBound = (scopes.filter fun scope => scope.part = .orderings).all isBound := by
  rw [List.all_filter]
  refine congrArg scopes.all (funext fun scope => ?_)
  cases scope <;> simp [part, isBound]

/-- Scopes without handlers do the same to a query, or all fail, in any two orders that leave the
scopes of each part in their order. -/
theorem applyAll_eq_of_parts {first second : List Scope} (firstPlain : ∀ scope ∈ first, scope.Plain)
    (secondPlain : ∀ scope ∈ second, scope.Plain)
    (same : ∀ part, (first.filter fun scope => scope.part = part)
      = second.filter fun scope => scope.part = part) (query : Select) :
    (applyAll first query).value = (applyAll second query).value := by
  rw [applyAll_eq firstPlain, applyAll_eq secondPlain, all_isBound_eq first, same .orderings,
    ← all_isBound_eq second, writeAll_eq_of_parts same]

/-- What a filter, an order and a page write into a query. -/
theorem writeAll_one_each (filter : Filter) (sorting : Sorting) (page : Page) (query : Select) :
    writeAll [.filter filter, .sorting sorting, .page page] query =
      { query with
        clauses := query.clauses ++ (filter.clause? query.schema).toList
        orderings := query.orderings ++ sorting.requested
        window := { skip := some page.cursor.offset, take := some page.cursor.pageSize } } := by
  simp only [writeAll, List.flatMap_cons, List.flatMap_nil, clauses, orderings, List.append_nil,
    List.nil_append]
  rfl

/-- In every order of one scope of each part there is one scope of each part. -/
theorem filter_part_of_perm {filter : Filter} {sorting : Sorting} {page : Page}
    {scopes : List Scope} (all : scopes.Perm [.filter filter, .sorting sorting, .page page])
    (part : QueryPart) :
    (scopes.filter fun scope => scope.part = part)
      = [.filter filter, .sorting sorting, .page page].filter fun scope => scope.part = part := by
  have selected := all.filter fun scope => scope.part = part
  cases part <;> exact List.perm_singleton.1 selected

end Scope

/-- Each of a filter without handlers, an order and a page writes only its own part of a query, so
in all orders of the three the query is the same, or they all fail. -/
theorem scopes_commute (query : Select) (filter : Filter) (noHandlers : filter.handlers = [])
    (sorting : Sorting) (page : Page) :
    let conditions := (filter.clause? query.schema).toList
    let window : Window :=
      { skip := some page.cursor.offset, take := some page.cursor.pageSize }
    let outcome : Except Cause Select :=
      match sorting.params with
      | none => .error .sortUnbound
      | some _ => .ok { query with
          clauses := query.clauses ++ conditions
          orderings := query.orderings ++ sorting.requested
          window }
    conditions.length ≤ 1
      ∧ (filter.apply query).value = { query with clauses := query.clauses ++ conditions }
      ∧ (∀ request, sorting.params = some request → (sorting.apply query).value
          = .ok { query with orderings := query.orderings ++ sorting.requested })
      ∧ (page.apply query).value = { query with window }
      ∧ (sorting.params = none → ∀ other : Select,
          (sorting.apply other).value = .error .sortUnbound)
      ∧ Cause.sortUnbound.toError.code = .missingConfiguration
      ∧ ∀ order : List Scope, order.Perm [.filter filter, .sorting sorting, .page page] →
          (Scope.applyAll order query).value = outcome
            ∧ (Scope.applyAll order query).value.bind Select.render = outcome.bind Select.render := by
  intro conditions window outcome
  have plain {order : List Scope}
      (all : order.Perm [.filter filter, .sorting sorting, .page page]) :
      ∀ scope ∈ order, scope.Plain := by
    intro scope member
    have listed := all.mem_iff.1 member
    simp only [List.mem_cons, List.not_mem_nil, or_false] at listed
    rcases listed with rfl | rfl | rfl
    · exact noHandlers
    · trivial
    · trivial
  have any (order : List Scope)
      (all : order.Perm [.filter filter, .sorting sorting, .page page]) :
      (Scope.applyAll order query).value = outcome := by
    rw [Scope.applyAll_eq_of_parts (plain all) (plain (List.Perm.refl _))
      (Scope.filter_part_of_perm all), Scope.applyAll_eq (plain (List.Perm.refl _)),
      Scope.writeAll_one_each]
    cases bound : sorting.params <;> simp [outcome, bound, Scope.isBound, conditions, window]
  refine ⟨?single, filter.apply_value noHandlers query, fun request bound => ?sorted, rfl,
    fun unbound other => sorting.apply_unbound unbound other, rfl, fun order all => ?orders⟩
  case single => cases found : filter.clause? query.schema <;> simp [conditions, found]
  case sorted =>
    rw [Sorting.requested_eq bound]
    exact sorting.apply_value bound query
  case orders =>
    have reached := any order all
    exact ⟨reached, congrArg (Except.bind · Select.render) reached⟩

/-- On a query that has a condition already, the page first and the filter last leave the same as
the other way round; an order without a request fails before a page and after it. -/
theorem scopes_commute_page_first :
    let request : Params := {
      entries := [("age", "3"), ("page", "2"), ("sort", "-age")]
      ascending := by unfold Entries.Ascending; decide }
    let filter : Filter := { fields := ["age"], params := some request }
    let sorting : Sorting := { fields := ["age"], params := some request }
    let unbound : Sorting := { fields := ["age"] }
    let page : Page := { total := 50, params := request }
    let query : Select := { table := "t", clauses := [⟨"open", []⟩] }
    filter.handlers = [] ∧ sorting.params = some request ∧ unbound.params = none
      ∧ (Scope.applyAll [.page page, .sorting sorting, .filter filter] query).value.bind
          Select.render
        = .ok ("SELECT * FROM \"t\" WHERE (open) AND (\"age\" = $1) "
          ++ "ORDER BY \"age\" DESC LIMIT 20 OFFSET 20", [.text "3"])
      ∧ (Scope.applyAll [.page page, .sorting unbound, .filter filter] query).value
        = .error .sortUnbound := by
  intro request filter sorting unbound page query
  obtain ⟨-, -, -, -, -, -, orders⟩ := scopes_commute query filter rfl sorting page
  obtain ⟨-, -, -, -, -, -, failing⟩ := scopes_commute query filter rfl unbound page
  have reversed (sorting : Sorting) : [Scope.page page, .sorting sorting, .filter filter].Perm
      [.filter filter, .sorting sorting, .page page] := List.reverse_perm [_, _, _]
  have skipped : page.cursor.offset = 20 := by decide +kernel
  have taken : page.cursor.pageSize = 20 := by decide +kernel
  have written : filter.clause? query.schema = some ⟨"\"age\" = ?", [.text "3"]⟩ := rfl
  have ordered : sorting.requested = [⟨"\"age\"", .descending⟩] := rfl
  have rendered : Select.render {
      table := "t", clauses := [⟨"open", []⟩, ⟨"\"age\" = ?", [.text "3"]⟩]
      orderings := [⟨"\"age\"", .descending⟩], window := { skip := some 20, take := some 20 } }
    = .ok ("SELECT * FROM \"t\" WHERE (open) AND (\"age\" = $1) "
      ++ "ORDER BY \"age\" DESC LIMIT 20 OFFSET 20", [.text "3"]) := by rfl
  rw [skipped, taken, written, ordered] at orders
  exact ⟨rfl, rfl, rfl, (orders _ (reversed sorting)).2.trans rendered,
    (failing _ (reversed unbound)).1⟩

end Listing
