import Listing.Filter
import Mathlib.Data.List.Basic

/-!
# What a filter compiles parameters to

Every parameter contributes by itself: a condition, a special parameter that waits for its handler,
or nothing. Main statements: `compile_value` gives the compiled conditions, values and special
parameters as what the parameters contribute in order, `mem_conditions` says where a condition comes
from, and `apply_value` what a filter without handlers leaves of a query.
-/
namespace Listing

/-- Coercion of a text gives a truth value, the text itself, or a failure. -/
theorem coerce_value (schema : Option Schema) (field text : String) :
    (∃ cause, (coerce schema field text).value = .error cause)
      ∨ (∃ truth, (coerce schema field text).value = .ok (.bool truth))
      ∨ (coerce schema field text).value = .ok (.text text) := by
  cases schema with
  | none => exact .inr (.inr rfl)
  | some schema =>
    rw [coerce, Schema.coerce]
    cases schema.kind? field with
    | none => exact .inr (.inr rfl)
    | some kind =>
      cases kind with
      | bool =>
        cases parseBool text with
        | none => exact .inl ⟨_, rfl⟩
        | some truth => exact .inr (.inl ⟨truth, rfl⟩)
      | string => exact .inr (.inr rfl)
      | number => exact .inr (.inr rfl)
      | date => exact .inr (.inr rfl)

/-- A value that becomes at least one parameter, and none that is a list. -/
structure Value.Plain (value : Value) : Prop where
  /-- There is a parameter. -/
  expansion_ne_nil : value.expansion ≠ []
  /-- No parameter is a list. -/
  flat : ∀ item ∈ value.expansion, ∀ items, item ≠ .list items

/-- A truth value becomes one parameter. -/
theorem Value.plain_bool (truth : Bool) : (Value.bool truth).Plain := by
  constructor <;> simp [Value.expansion]

/-- A text becomes one parameter. -/
theorem Value.plain_text (text : String) : (Value.text text).Plain := by
  constructor <;> simp [Value.expansion]

/-- The pieces of a text become parameters, of which there is at least one. -/
theorem Operator.plain_members_text (text : String) : (members (.text text)).Plain := by
  constructor
  · simp [members, Value.expansion, Text.split_ne_nil]
  · simp [members, Value.expansion]

/-- A value that was coerced is a truth value or the text it was coerced from. -/
theorem coerced_kinds {schema : Option Schema} {field text : String} {value : Value}
    (coerced : (coerce schema field text).value = .ok value) :
    (∃ truth, value = .bool truth) ∨ value = .text text := by
  rcases coerce_value schema field text with ⟨cause, failed⟩ | ⟨truth, read⟩ | read
  · rw [failed] at coerced
    contradiction
  · exact .inl ⟨truth, Except.ok.inj (coerced.symm.trans read)⟩
  · exact .inr (Except.ok.inj (coerced.symm.trans read))

/-- What an operator binds for a value that was coerced becomes parameters that are no lists. -/
theorem Operator.plain_operand {schema : Option Schema} {field text : String} {value : Value}
    (operator : Operator) (coerced : (coerce schema field text).value = .ok value) :
    (operator.operand value).Plain := by
  rcases coerced_kinds coerced with ⟨truth, rfl⟩ | rfl
  · cases operator <;> first | exact Value.plain_bool truth | exact Value.plain_text _
  · cases operator <;> first | exact Value.plain_text _ | exact plain_members_text text

namespace Filter

variable {Q : Type}

/-- The condition that a parameter contributes. -/
def condition? (filter : Filter Q) (schema : Option Schema) (entry : String × String) :
    Option Condition :=
  match filter.role entry.1 with
  | some (.field field operator) =>
    (coerce schema field entry.2).value.toOption.map
      (operator.condition (filter.column schema field))
  | _ => none

/-- The special parameter that a parameter is. -/
def special? (filter : Filter Q) (entry : String × String) : Option (String × String) :=
  match filter.role entry.1 with
  | some (.special key) => some (key, entry.2)
  | _ => none

/-- The conditions that parameters contribute, in order. -/
def conditions (filter : Filter Q) (schema : Option Schema) (entries : List (String × String)) :
    List Condition :=
  entries.filterMap (filter.condition? schema)

/-- A parameter contributes its condition and its special parameter. -/
theorem contribution_value (filter : Filter Q) (schema : Option Schema) (entry : String × String) :
    (filter.contribution schema entry.1 entry.2).value =
      { predicates := (filter.condition? schema entry).toList.map Condition.sql
        values := (filter.condition? schema entry).toList.filterMap Condition.value
        pending := (filter.special? entry).toList } := by
  rw [contribution, condition?, special?]
  cases filter.role entry.1 with
  | none => rfl
  | some role =>
    cases role with
    | special key => rfl
    | field field operator =>
      simp only [Journal.value_bind]
      cases (coerce schema field entry.2).value with
      | error cause => rfl
      | ok value =>
        cases bound : (operator.condition (filter.column schema field) value).value <;>
          simp [Except.toOption, Compiled.ofCondition, bound]

/-- Parameters contribute their conditions and their special parameters in order. -/
theorem contributions_value (filter : Filter Q) (schema : Option Schema)
    (entries : List (String × String)) :
    (filter.contributions schema entries).value =
      { predicates := (filter.conditions schema entries).map Condition.sql
        values := (filter.conditions schema entries).filterMap Condition.value
        pending := entries.filterMap filter.special? } := by
  induction entries with
  | nil => rfl
  | cons entry rest ih =>
    obtain ⟨key, text⟩ := entry
    have own := filter.contribution_value schema (key, text)
    simp only at own
    have first : filter.conditions schema ((key, text) :: rest)
        = (filter.condition? schema (key, text)).toList ++ filter.conditions schema rest := by
      cases found : filter.condition? schema (key, text) <;> simp [conditions, found]
    have special : ((key, text) :: rest).filterMap filter.special?
        = (filter.special? (key, text)).toList ++ rest.filterMap filter.special? := by
      cases found : filter.special? (key, text) <;> simp [found]
    rw [first, special, List.map_append, List.filterMap_append]
    simp only [contributions, Journal.value_bind, Journal.value_pure, own, ih, Compiled.append]

/-- A filter compiles what its parameters contribute. -/
theorem compile_value (filter : Filter Q) (schema : Option Schema) :
    (filter.compile schema).value =
      { predicates :=
          (filter.conditions schema filter.parameters.value.entries).map Condition.sql
        values :=
          (filter.conditions schema filter.parameters.value.entries).filterMap Condition.value
        pending := filter.parameters.value.entries.filterMap filter.special? } := by
  rw [← contributions_value]
  rfl

/-- Every condition is that of an operator on the column of a field, for a value of the field. -/
theorem mem_conditions {filter : Filter Q} {schema : Option Schema}
    {entries : List (String × String)} {condition : Condition}
    (member : condition ∈ filter.conditions schema entries) :
    ∃ entry ∈ entries, ∃ field operator value,
      filter.role entry.1 = some (.field field operator)
        ∧ (coerce schema field entry.2).value = .ok value
        ∧ condition = operator.condition (filter.column schema field) value := by
  obtain ⟨entry, inside, contributed⟩ := List.mem_filterMap.1 member
  refine ⟨entry, inside, ?_⟩
  rw [condition?] at contributed
  cases asked : filter.role entry.1 with
  | none => simp [asked] at contributed
  | some role =>
    cases role with
    | special key => simp [asked] at contributed
    | field field operator =>
      cases coerced : (coerce schema field entry.2).value with
      | error cause => simp [asked, coerced, Except.toOption] at contributed
      | ok value =>
        simp only [asked, coerced, Except.toOption, Option.map_some, Option.some.injEq]
          at contributed
        exact ⟨field, operator, value, rfl, coerced, contributed.symm⟩

/-- Every value that is compiled becomes parameters that are no lists. -/
theorem plain_values {filter : Filter Q} {schema : Option Schema} {value : Value}
    (member : value ∈ (filter.compile schema).value.values) : value.Plain := by
  rw [compile_value] at member
  obtain ⟨condition, inside, bound⟩ := List.mem_filterMap.1 member
  obtain ⟨entry, _, field, operator, coerced, _, read, rfl⟩ := mem_conditions inside
  obtain ⟨-, operand⟩ := Option.ite_none_right_eq_some.1 bound
  obtain rfl := Option.some.inj operand
  exact operator.plain_operand read

/-- The condition that the parameters of a filter add to a query, when they contribute any. -/
def clause? (filter : Filter Q) (schema : Option Schema) : Option Clause :=
  (filter.compile schema).value.condition?.map fun sql =>
    ⟨sql, (filter.compile schema).value.values⟩

/-- A filter without handlers adds its condition at the end and changes nothing else. -/
theorem apply_value {filter : Filter} (noHandlers : filter.handlers = []) (query : Select) :
    (filter.apply query).value =
      { query with clauses := query.clauses ++ (filter.clause? query.schema).toList } := by
  rw [apply, clause?]
  simp only [Journal.value_bind, noHandlers, Select.builder_schema]
  cases (filter.compile query.schema).value.condition? with
  | none => simp [Handlers.dispatch]
  | some condition => simp [Handlers.dispatch, Select.filterBy]

/-- The filter with a request bound. -/
def boundTo (filter : Filter Q) (request : Params) : Filter Q :=
  { filter with params := some request }

/-- What parameters contribute does not depend on where a filter takes its own from. -/
theorem contributions_of_source (filter : Filter Q) (uri : Option String) (params : Option Params)
    (schema : Option Schema) (entries : List (String × String)) :
    ({ filter with uri, params } : Filter Q).contributions schema entries
      = filter.contributions schema entries := by
  induction entries with
  | nil => rfl
  | cons entry rest ih =>
    rw [contributions, contributions, ih]
    rfl

/-- Either the filter takes the parameters of whatever request is bound, or no bound request has
any influence on them. -/
theorem parameters_boundTo (filter : Filter Q) :
    (∀ request, (filter.boundTo request).parameters = pure request)
      ∨ ∀ first second,
        (filter.boundTo first).parameters = (filter.boundTo second).parameters := by
  cases given : filter.uri.filter fun uri => !uri.isEmpty with
  | none =>
    refine .inl fun request => ?_
    rw [parameters, boundTo, given]
  | some uri =>
    refine .inr fun first second => ?_
    rw [parameters, parameters, boundTo, boundTo, given]

end Filter

end Listing
