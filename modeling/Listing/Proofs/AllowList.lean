import Listing.Page
import Listing.Proofs.Compilation
import Listing.Proofs.Entries
import Listing.Proofs.Roles
import Listing.Sorting

/-!
# What a request can reach

The parameters of a request go through one gate: the reserved names, the names with a handler, the
allowed fields, and the allowed fields with the name of an operator. A parameter that does not pass
cannot be told from one that is left out. Main statements: `gate_of_role` says which parameters ask
for anything, `compile_eq_of_role` that a filter sees no others, and `allow_lists_sole_gate` puts
together what a filter, an order and a page that share their settings take from a request.
-/
namespace Listing

namespace Filter

/-- What a parameter can ask for: its handler, or a comparison of an allowed field that its name
spells. -/
theorem role_cases {Q : Type} {filter : Filter Q} {key : String} {role : Role}
    (asked : filter.role key = some role) :
    (role = .special key ∧ filter.handlers.hasKey key)
      ∨ ∃ field ∈ filter.fields, ∃ operator ∈ Operator.all, role = .field field operator
        ∧ (key = field ∨ key = field ++ "__" ++ operator.name) := by
  rw [Filter.role] at asked
  split at asked
  · contradiction
  cases role with
  | special name =>
    obtain ⟨special, rfl⟩ := Role.ofKey_eq_special_iff.1 asked
    exact .inl ⟨rfl, special⟩
  | field field operator =>
    obtain ⟨-, ⟨allowed, rfl, rfl⟩ | ⟨-, allowed, listed, spells⟩⟩ :=
      Role.ofKey_eq_field_iff.1 asked
    · exact .inr ⟨field, allowed, .equal, Operator.mem_all _, rfl, .inl rfl⟩
    · exact .inr ⟨field, allowed, operator, listed, rfl, .inr spells.spelled⟩

/-- The names that a listing may take notice of: reserved names, names with a handler, allowed
fields, and allowed fields with two underscores and the name of an operator behind them. -/
def Gate (filter : Filter) (key : String) : Prop :=
  key ∈ filter.settings.reserved ∨ filter.handlers.hasKey key ∨ key ∈ filter.fields
    ∨ ∃ field ∈ filter.fields, ∃ operator ∈ Operator.all, key = field ++ "__" ++ operator.name

/-- A parameter asks for something only if its name passes the gate. -/
theorem gate_of_role {filter : Filter} {key : String} (asked : (filter.role key).isSome) :
    filter.Gate key := by
  obtain ⟨role, found⟩ := Option.isSome_iff_exists.1 asked
  rcases role_cases found with ⟨-, special⟩ | ⟨field, allowed, operator, listed, -, spelled⟩
  · exact .inr (.inl special)
  · rcases spelled with rfl | spelled
    · exact .inr (.inr (.inl allowed))
    · exact .inr (.inr (.inr ⟨field, allowed, operator, listed, spelled⟩))

/-- A predicate compares the column of an allowed field. -/
theorem column_of_predicate {filter : Filter} {schema : Option Schema} {predicate : String}
    (compiled : predicate ∈ (filter.compile schema).value.predicates) :
    ∃ field ∈ filter.fields, ∃ operator : Operator, ∃ value,
      predicate = (operator.condition (filter.column schema field) value).sql := by
  rw [compile_value] at compiled
  obtain ⟨condition, contributed, rfl⟩ := List.mem_map.1 compiled
  obtain ⟨entry, _, field, operator, value, asked, _, rfl⟩ := mem_conditions contributed
  rcases role_cases asked with ⟨same, -⟩ | ⟨name, allowed, _, _, same, -⟩
  · contradiction
  · obtain ⟨rfl, -⟩ := Role.field.inj same
    exact ⟨field, allowed, operator, value, rfl⟩

/-- Parameters that ask for nothing can be left out: the contributions of the others are the same,
and so are the events. -/
theorem contributions_of_asking (filter : Filter) (schema : Option Schema)
    (entries : List (String × String)) :
    filter.contributions schema (entries.filter fun entry => (filter.role entry.1).isSome)
      = filter.contributions schema entries := by
  induction entries with
  | nil => rfl
  | cons entry rest ih =>
    obtain ⟨key, text⟩ := entry
    rw [List.filter_cons]
    cases asked : filter.role key with
    | none =>
      rw [if_neg (by simp), ih, contributions, contribution, asked]
      dsimp only
      rw [pure_bind]
      exact (bind_pure _).symm
    | some role =>
      rw [if_pos Option.isSome_some, contributions, contributions, ih]

/-- What parameters contribute does not depend on the request that is bound. -/
theorem contributions_boundTo {Q : Type} (filter : Filter Q) (schema : Option Schema)
    (request : Params) (entries : List (String × String)) :
    (filter.boundTo request).contributions schema entries
      = filter.contributions schema entries :=
  filter.contributions_of_source filter.uri (some request) schema entries

/-- A filter that is bound to one or the other of two requests compiles the same if the requests
agree on the parameters that ask for something. -/
theorem compile_eq_of_role {filter : Filter} {schema : Option Schema} {first second : Params}
    (agree : ∀ key, (filter.role key).isSome → first.find? key = second.find? key) :
    (filter.boundTo first).compile schema = (filter.boundTo second).compile schema := by
  rw [compile, compile]
  simp only [contributions_boundTo]
  rcases filter.parameters_boundTo with taken | fixed
  · have asking := Entries.filter_eq_of_find?_eq first.ascending second.ascending agree
    have same : filter.contributions schema first.entries
        = filter.contributions schema second.entries := by
      rw [← contributions_of_asking, asking, contributions_of_asking]
    rw [taken, taken, pure_bind, pure_bind, same]
  · rw [fixed first second]

/-- A filter that is bound to one or the other of two requests changes a query in the same way if
the requests agree on the parameters that ask for something. -/
theorem apply_eq_of_role {filter : Filter} {first second : Params}
    (agree : ∀ key, (filter.role key).isSome → first.find? key = second.find? key)
    (query : Select) :
    (filter.boundTo first).apply query = (filter.boundTo second).apply query := by
  rw [apply, apply, compile_eq_of_role agree]
  rfl

end Filter

namespace Sorting

/-- The order with a request bound. -/
def boundTo (sorting : Sorting) (request : Params) : Sorting :=
  { sorting with params := some request }

/-- An entry orders by the column of a field that is allowed or stands in the default. -/
theorem column_of_ordering {sorting : Sorting} {entry : String} {ordering : Ordering}
    (resolved : sorting.ordering? entry = some ordering) :
    ∃ field, ordering.column = sorting.column field
      ∧ (field ∈ sorting.fields ∨ ∃ default ∈ sorting.defaults, entryField default = field) := by
  rw [ordering?] at resolved
  split at resolved
  rename_i field direction _
  simp only at resolved
  split at resolved
  · rename_i sortable
    obtain rfl := Option.some.inj resolved
    refine ⟨String.ofList field, rfl, ?_⟩
    simpa [isSortable] using (Bool.and_eq_true_iff.1 sortable).2
  · contradiction

/-- The orderings of a request are those of the entries that apply to it. -/
theorem orderings_boundTo (sorting : Sorting) (request : Params) :
    (sorting.boundTo request).orderings = do
      let orderings := (sorting.entries request).filterMap sorting.ordering?
      Journal.note (.orderingsResolved orderings.length)
      return .ok orderings := rfl

/-- Requests with the same list have the same orderings. -/
theorem orderings_eq_of_find?_eq {sorting : Sorting} {first second : Params}
    (agree : first.find? sorting.settings.sortParam = second.find? sorting.settings.sortParam) :
    (sorting.boundTo first).orderings = (sorting.boundTo second).orderings := by
  have same : sorting.entries first = sorting.entries second := by
    rw [entries, entries, agree]
  rw [orderings_boundTo, orderings_boundTo, same]

end Sorting

/-- Requests with the same page and size have the same place in a result. -/
theorem Page.cursor_eq_of_find?_eq {page : Page} {first second : Params}
    (samePage : first.find? page.settings.pageParam = second.find? page.settings.pageParam)
    (sameSize : first.find? page.settings.pageSizeParam
      = second.find? page.settings.pageSizeParam) :
    (page.rebind (.params first)).cursor = (page.rebind (.params second)).cursor := by
  change Cursor.ofParams page.settings page.total first
    = Cursor.ofParams page.settings page.total second
  rw [Cursor.ofParams, Cursor.ofParams, Params.intOr, Params.intOr, Params.intOr, Params.intOr,
    samePage, sameSize]

/-- Predicates and orderings are on allowed fields or on those of the default, and requests that
agree on the names that pass the gate lead to the same listing. -/
theorem allow_lists_sole_gate (filter : Filter) (sorting : Sorting) (page : Page)
    (schema : Option Schema) (sortingShares : sorting.settings = filter.settings)
    (pageShares : page.settings = filter.settings) :
    (∀ predicate ∈ (filter.compile schema).value.predicates,
        ∃ field ∈ filter.fields, ∃ operator : Operator, ∃ value,
          predicate = (operator.condition (filter.column schema field) value).sql)
      ∧ (∀ request, ∃ orderings, (sorting.boundTo request).orderings.value = .ok orderings
          ∧ ∀ ordering ∈ orderings, ∃ field, ordering.column = sorting.column field
            ∧ (field ∈ sorting.fields
              ∨ ∃ default ∈ sorting.defaults, Sorting.entryField default = field))
      ∧ ∀ first second : Params,
          (∀ key, filter.Gate key → first.find? key = second.find? key) →
          (filter.boundTo first).compile schema = (filter.boundTo second).compile schema
            ∧ (sorting.boundTo first).orderings = (sorting.boundTo second).orderings
            ∧ (page.rebind (.params first)).cursor = (page.rebind (.params second)).cursor
            ∧ ∀ query : Select,
                (filter.boundTo first).apply query = (filter.boundTo second).apply query
                ∧ (sorting.boundTo first).apply query = (sorting.boundTo second).apply query
                ∧ (page.rebind (.params first)).apply query
                  = (page.rebind (.params second)).apply query := by
  refine ⟨fun predicate compiled => Filter.column_of_predicate compiled, ?_, ?_⟩
  · intro request
    refine ⟨_, congrArg Journal.value (sorting.orderings_boundTo request), ?_⟩
    intro ordering member
    obtain ⟨entry, _, resolved⟩ := List.mem_filterMap.1 member
    exact Sorting.column_of_ordering resolved
  · intro first second agree
    have asking (key : String) (asked : (filter.role key).isSome) :
        first.find? key = second.find? key := agree key (Filter.gate_of_role asked)
    have reserved (key : String) (listed : key ∈ filter.settings.reserved) :
        first.find? key = second.find? key := agree key (.inl listed)
    have orderings : (sorting.boundTo first).orderings = (sorting.boundTo second).orderings := by
      refine Sorting.orderings_eq_of_find?_eq ?_
      rw [sortingShares]
      exact reserved _ (by simp [Settings.reserved])
    have cursor : (page.rebind (.params first)).cursor = (page.rebind (.params second)).cursor := by
      refine Page.cursor_eq_of_find?_eq ?_ ?_
      · rw [pageShares]
        exact reserved _ (by simp [Settings.reserved])
      · rw [pageShares]
        exact reserved _ (by simp [Settings.reserved])
    refine ⟨Filter.compile_eq_of_role asking, orderings, cursor, fun query => ⟨?_, ?_, ?_⟩⟩
    · exact Filter.apply_eq_of_role asking query
    · rw [Sorting.apply, Sorting.apply, orderings]
    · rw [Page.apply, Page.apply, cursor]

/-- Parameters that name a field which is not allowed, in whatever spelling, leave no trace. -/
theorem allow_lists_sole_gate_hidden_field :
    let filter : Filter := { fields := ["price"] }
    let sorting : Sorting := { fields := ["price"] }
    let page : Page := { total := 50 }
    let plain : Params := {
      entries := [("price__gt", "5")]
      ascending := List.pairwise_singleton _ _ }
    let probing : Params := {
      entries := [("cost", "1"), ("cost__isnull", "true"), ("price__gt", "5"), ("price__x", "2")]
      ascending := by unfold Entries.Ascending; decide }
    sorting.settings = filter.settings ∧ page.settings = filter.settings
      ∧ (∀ key, filter.Gate key → plain.find? key = probing.find? key)
      ∧ (filter.boundTo plain).compile none = (filter.boundTo probing).compile none := by
  intro filter sorting page plain probing
  have agree (key : String) (gate : filter.Gate key) : plain.find? key = probing.find? key := by
    rcases gate with reserved | special | allowed | ⟨field, allowed, operator, -, rfl⟩
    · simp only [filter, Settings.reserved, List.mem_cons, List.not_mem_nil, or_false] at reserved
      rcases reserved with rfl | rfl | rfl <;> rfl
    · contradiction
    · obtain rfl := List.mem_singleton.1 allowed
      rfl
    · obtain rfl := List.mem_singleton.1 allowed
      cases operator <;> rfl
  have gate := allow_lists_sole_gate filter sorting page none rfl rfl
  exact ⟨rfl, rfl, agree, (gate.2.2 plain probing agree).1⟩

end Listing
