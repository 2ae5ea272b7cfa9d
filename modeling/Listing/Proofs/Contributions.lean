import Listing.Proofs.AllowList

/-!
# What each parameter contributes

A request is compiled to what its parameters are compiled to alone, one after the other. Main
statements: `contribution_cases` says what a single parameter contributes and when,
`contributions_eq_flatMap` and `contributions_append` that contributions follow one another,
`values_eq` which value belongs to which predicate, and `compile_each` puts the law of a whole
request together.
-/
namespace Listing

/-- Only the text of a truth value can be refused, and only for its spelling. -/
theorem coerce_fails_iff {schema : Option Schema} {field text : String} :
    (∃ cause, (coerce schema field text).value = .error cause)
      ↔ schema.bind (·.kind? field) = some .bool ∧ parseBool text = none := by
  cases schema with
  | none => simp [coerce]
  | some schema =>
    rw [coerce, Schema.coerce, Option.bind_some]
    cases schema.kind? field with
    | none => simp [-bind_pure_comp]
    | some kind =>
      cases kind with
      | bool => cases parseBool text <;> simp
      | string => simp
      | number => simp
      | date => simp

/-- A comparison that a parameter asks for. -/
structure Comparison where
  /-- The field that is compared. -/
  field : String
  /-- The operator. -/
  operator : Operator
  /-- The value of the parameter. -/
  value : Value

namespace Filter

/-- The condition of a comparison. -/
def conditionOf (filter : Filter) (schema : Option Schema) (comparison : Comparison) : Condition :=
  comparison.operator.condition (filter.column schema comparison.field) comparison.value

/-- The comparison that a parameter asks for. -/
def comparison? (filter : Filter) (schema : Option Schema) (entry : String × String) :
    Option Comparison :=
  match filter.role entry.1 with
  | some (.field field operator) =>
    (coerce schema field entry.2).value.toOption.map fun value => { field, operator, value }
  | _ => none

/-- The comparisons that parameters ask for, in order. -/
def comparisons (filter : Filter) (schema : Option Schema) (entries : List (String × String)) :
    List Comparison :=
  entries.filterMap (filter.comparison? schema)

/-- The condition of a parameter is that of its comparison. -/
theorem condition?_eq (filter : Filter) (schema : Option Schema) (entry : String × String) :
    filter.condition? schema entry
      = (filter.comparison? schema entry).map (filter.conditionOf schema) := by
  rw [condition?, comparison?]
  cases filter.role entry.1 with
  | none => rfl
  | some role =>
    cases role with
    | special key => rfl
    | field field operator =>
      dsimp only
      rw [Option.map_map]
      rfl

/-- The conditions of parameters are those of their comparisons. -/
theorem conditions_eq (filter : Filter) (schema : Option Schema)
    (entries : List (String × String)) :
    filter.conditions schema entries
      = (filter.comparisons schema entries).map (filter.conditionOf schema) := by
  rw [conditions, comparisons, List.map_filterMap]
  exact congrArg (List.filterMap · entries) (funext (filter.condition?_eq schema))

/-- The values of conditions are the operands of the comparisons that bind one, in order. -/
theorem values_eq (filter : Filter) (schema : Option Schema) (compared : List Comparison) :
    (compared.map (filter.conditionOf schema)).filterMap Condition.value
      = (compared.filter (·.operator.bindsValue)).map fun comparison =>
          comparison.operator.operand comparison.value := by
  induction compared with
  | nil => rfl
  | cons comparison rest ih =>
    rw [List.map_cons, List.filterMap_cons, List.filter_cons, ih, conditionOf, Operator.condition]
    dsimp only
    by_cases binds : comparison.operator.bindsValue
    · rw [if_pos binds, if_pos binds, List.map_cons]
    · rw [if_neg binds, if_neg binds]

/-- The contributions of parameters are those of each of them, one after the other. -/
theorem contributions_eq_flatMap {Q : Type} (filter : Filter Q) (schema : Option Schema)
    (entries : List (String × String)) :
    let own (entry : String × String) := (filter.contribution schema entry.1 entry.2).value
    (filter.contributions schema entries).value =
      { predicates := entries.flatMap fun entry => (own entry).predicates
        values := entries.flatMap fun entry => (own entry).values
        pending := entries.flatMap fun entry => (own entry).pending } := by
  intro own
  induction entries with
  | nil => rfl
  | cons entry rest ih =>
    obtain ⟨key, text⟩ := entry
    simp only [contributions, Journal.value_bind, Journal.value_pure, ih, Compiled.append,
      List.flatMap_cons, own]

/-- Parameters in sequence contribute one after the other. -/
theorem contributions_append (filter : Filter) (schema : Option Schema)
    (earlier later : List (String × String)) :
    (filter.contributions schema (earlier ++ later)).value
      = (filter.contributions schema earlier).value.append
          (filter.contributions schema later).value := by
  simp only [contributions_eq_flatMap, Compiled.append, List.flatMap_append]

/-- A parameter contributes nothing, itself when it is special, or else a predicate, with a value if
the operator binds one. -/
theorem contribution_cases (filter : Filter) (schema : Option Schema) (key text : String) :
    let own := (filter.contribution schema key text).value
    (own = {} ∧ (key ∈ filter.settings.reserved
        ∨ Role.ofKey filter.fields filter.handlers.hasKey key = none
        ∨ ∃ field operator, filter.role key = some (.field field operator)
          ∧ schema.bind (·.kind? field) = some .bool ∧ parseBool text = none))
      ∨ (own = { pending := [(key, text)] } ∧ filter.role key = some (.special key))
      ∨ ∃ field operator value, filter.role key = some (.field field operator)
          ∧ (coerce schema field text).value = .ok value
          ∧ own =
            { predicates := [(operator.condition (filter.column schema field) value).sql]
              values := if operator.bindsValue then [operator.operand value] else [] } := by
  intro own
  have contributed := filter.contribution_value schema (key, text)
  rw [condition?, special?] at contributed
  cases asked : filter.role key with
  | none =>
    refine .inl ⟨?_, ?_⟩
    · rw [asked] at contributed
      exact contributed
    · rw [role] at asked
      split at asked
      · rename_i reserved
        exact .inl (List.contains_iff_mem.1 reserved)
      · exact .inr (.inl asked)
  | some role =>
    cases role with
    | special name =>
      obtain ⟨same, -⟩ | ⟨_, _, _, _, same, -⟩ := role_cases asked
      · obtain rfl := Role.special.inj same
        rw [asked] at contributed
        exact .inr (.inl ⟨contributed, rfl⟩)
      · contradiction
    | field field operator =>
      cases coerced : (coerce schema field text).value with
      | error cause =>
        refine .inl ⟨?_, .inr (.inr ⟨field, operator, rfl, coerce_fails_iff.1 ⟨cause, coerced⟩⟩)⟩
        simp only [asked, coerced] at contributed
        exact contributed
      | ok value =>
        refine .inr (.inr ⟨field, operator, value, rfl, coerced, ?_⟩)
        simp only [asked, coerced, Except.toOption, Option.map_some, Option.toList_some,
          List.map_cons, List.map_nil, List.filterMap_cons, List.filterMap_nil,
          Operator.condition, Option.toList_none] at contributed
        refine contributed.trans ?_
        cases operator.bindsValue <;> rfl

/-- A filter without a URI compiles what the parameters of the bound request contribute. -/
theorem compile_boundTo {Q : Type} {filter : Filter Q} (noUri : filter.uri.all String.isEmpty)
    (schema : Option Schema) (request : Params) :
    ((filter.boundTo request).compile schema).value
      = (filter.contributions schema request.entries).value := by
  have unset : filter.uri.filter (fun uri => !uri.isEmpty) = none := by
    cases given : filter.uri with
    | none => rfl
    | some uri =>
      rw [given] at noUri
      simpa using noUri
  have taken : (filter.boundTo request).parameters = pure request := by
    rw [parameters, boundTo, unset]
  rw [compile, taken, pure_bind]
  simp only [Journal.value_bind, Journal.value_pure, contributions_boundTo]

/-- A request of one parameter is compiled to what the parameter contributes. -/
theorem compile_single {filter : Filter} (noUri : filter.uri.all String.isEmpty)
    (schema : Option Schema) (key text : String) :
    ((filter.boundTo (Params.ofList [(key, text)])).compile schema).value
      = (filter.contribution schema key text).value := by
  have single : (Params.ofList [(key, text)]).entries = [(key, text)] := rfl
  rw [compile_boundTo noUri, single, contributions_eq_flatMap]
  simp

/-- A request is compiled to what its parameters are compiled to alone, in ascending order of their
names, and a new parameter leaves the contributions of the others as they are. -/
theorem compile_each (filter : Filter) (schema : Option Schema) (request : Params)
    (noUri : filter.uri.all String.isEmpty) :
    let compiled (request : Params) := ((filter.boundTo request).compile schema).value
    let alone (entry : String × String) := compiled (Params.ofList [entry])
    let compared := filter.comparisons schema request.entries
    request.keys.Pairwise (· < ·)
      ∧ compiled request =
        { predicates := request.entries.flatMap fun entry => (alone entry).predicates
          values := request.entries.flatMap fun entry => (alone entry).values
          pending := request.entries.flatMap fun entry => (alone entry).pending }
      ∧ (∀ key text,
          (alone (key, text) = {} ∧ (key ∈ filter.settings.reserved
              ∨ Role.ofKey filter.fields filter.handlers.hasKey key = none
              ∨ ∃ field operator, filter.role key = some (.field field operator)
                ∧ schema.bind (·.kind? field) = some .bool ∧ parseBool text = none))
            ∨ (alone (key, text) = { pending := [(key, text)] }
              ∧ filter.role key = some (.special key))
            ∨ ∃ field operator value, filter.role key = some (.field field operator)
                ∧ (coerce schema field text).value = .ok value
                ∧ alone (key, text) =
                  { predicates := [(operator.condition (filter.column schema field) value).sql]
                    values := if operator.bindsValue then [operator.operand value] else [] })
      ∧ (∀ key text, request.find? key = none → ∃ earlier later : Params,
          request.entries = earlier.entries ++ later.entries
            ∧ (request.insert key text).entries = earlier.entries ++ (key, text) :: later.entries
            ∧ compiled request = (compiled earlier).append (compiled later)
            ∧ compiled (request.insert key text)
              = (compiled earlier).append ((alone (key, text)).append (compiled later)))
      ∧ (compiled request).predicates
          = compared.map (fun comparison => (filter.conditionOf schema comparison).sql)
      ∧ (compiled request).values
          = (compared.filter (·.operator.bindsValue)).map fun comparison =>
              comparison.operator.operand comparison.value := by
  intro compiled alone compared
  have whole (request : Params) :
      compiled request = (filter.contributions schema request.entries).value :=
    compile_boundTo noUri schema request
  have single (key text : String) :
      alone (key, text) = (filter.contribution schema key text).value :=
    compile_single noUri schema key text
  refine ⟨List.pairwise_map.2 request.ascending, ?_, ?_, ?_, ?_, ?_⟩
  · rw [whole, contributions_eq_flatMap]
    simp only [single]
  · intro key text
    rw [single]
    exact filter.contribution_cases schema key text
  · intro key text absent
    obtain ⟨before, after, split, added⟩ := Entries.exists_put text absent
    have ascending : Entries.Ascending (before ++ after) := split ▸ request.ascending
    let earlier : Params := ⟨before, (List.pairwise_append.1 ascending).1⟩
    let later : Params := ⟨after, (List.pairwise_append.1 ascending).2.1⟩
    refine ⟨earlier, later, split, added, ?_, ?_⟩
    · rw [whole, split, contributions_append, whole, whole]
    · have own : compiled (request.insert key text)
          = (filter.contributions schema (before ++ ([(key, text)] ++ after))).value :=
        (whole _).trans
          (congrArg (fun entries => (filter.contributions schema entries).value) added)
      have one : (filter.contributions schema [(key, text)]).value = alone (key, text) :=
        (whole (Params.ofList [(key, text)])).symm
      rw [own, contributions_append, contributions_append, one, whole, whole]
  · rw [whole, contributions_value, conditions_eq, List.map_map]
    rfl
  · rw [whole, contributions_value, conditions_eq, values_eq]

/-- Parameters of every kind in one request: a refused truth value, a reserved name, a special
parameter, a test for null and a comparison, each of which contributes by itself. -/
theorem compile_each_kinds :
    let schema : Schema := { name := "T", fields := [("Open", .bool)] }
    let filter : Filter := { fields := ["age", "open"], handlers := [("q", fun _ query => query)] }
    let request : Params := {
      entries := [("age", "3"), ("age__isnull", "1"), ("open", "maybe"), ("page", "2"), ("q", "x")]
      ascending := by unfold Entries.Ascending; decide }
    let alone (entry : String × String) :=
      ((filter.boundTo (Params.ofList [entry])).compile schema).value
    filter.uri.all String.isEmpty
      ∧ ((filter.boundTo request).compile schema).value =
        { predicates := request.entries.flatMap fun entry => (alone entry).predicates
          values := request.entries.flatMap fun entry => (alone entry).values
          pending := request.entries.flatMap fun entry => (alone entry).pending }
      ∧ (request.entries.flatMap fun entry => (alone entry).predicates)
        = ["\"age\" = ?", "\"age\" IS NULL"] := by
  intro schema filter request alone
  have each := compile_each filter schema request rfl
  exact ⟨rfl, each.2.1, by rfl⟩

end Filter

end Listing
