import Listing.Proofs.Entries
import Listing.Proofs.Scopes

/-!
# What the SQL says about the values of a request

The values of a request are bound and never written. Two requests with the same keys are compiled
to the same predicates unless a value is refused in one of them only, or asks for null in one of
them only; and their SQL is the same unless a list has another number of items. Main statements:
`conditions_alike` relates the conditions of two requests, and `injection_safety` compares the two
runs as a whole.
-/
namespace Listing

/-- Two conditions with one text whose values, when there are any, are related. -/
structure Condition.Alike (same : Value → Value → Prop) (first second : Condition) : Prop where
  /-- The texts are the same. -/
  sql : first.sql = second.sql
  /-- Both bind a value or neither does, and the values are related. -/
  value : Option.Rel same first.value second.value

/-- Conditions that are alike one by one have the same texts and related values. -/
theorem Condition.Alike.lists {same : Value → Value → Prop} {first second : List Condition}
    (alike : List.Forall₂ (Condition.Alike same) first second) :
    first.map Condition.sql = second.map Condition.sql
      ∧ List.Forall₂ same (first.filterMap Condition.value) (second.filterMap Condition.value) := by
  constructor
  · rw [← List.forall₂_eq_eq_eq, List.forall₂_map_left_iff, List.forall₂_map_right_iff]
    exact alike.imp fun _ _ pair => pair.sql
  · exact List.rel_filterMap (fun _ _ pair => pair.value) alike

/-- Two texts that a field and an operator cannot tell apart in the predicate: both are refused, or
both become values, which ask for null alike when the operator tests for it. -/
def PredicateAlike (schema : Option Schema) (field : String) (operator : Operator)
    (left right : String) : Prop :=
  match (coerce schema field left).value, (coerce schema field right).value with
  | .ok first, .ok second =>
    operator = .isNull → Operator.asksForNull first = Operator.asksForNull second
  | .error _, .error _ => True
  | _, _ => False

/-- Two texts that become lists of as many items when the operator takes a list. -/
def ItemsAlike (schema : Option Schema) (field : String) (operator : Operator)
    (left right : String) : Prop :=
  operator = .isIn ∨ operator = .isNotIn → ∀ first second,
    (coerce schema field left).value = .ok first → (coerce schema field right).value = .ok second →
      (Operator.members first).arity = (Operator.members second).arity

/-- An operator gives alike conditions on one column for values that ask for null alike, if that is
what it tests, and whose operands are related. -/
theorem Operator.condition_alike {same : Value → Value → Prop} {operator : Operator}
    {column : String} {first second : Value}
    (nulls : operator = .isNull → asksForNull first = asksForNull second)
    (operands : same (operator.operand first) (operator.operand second)) :
    Condition.Alike same (operator.condition column first) (operator.condition column second) := by
  have compared : operator.comparison first = operator.comparison second := by
    cases operator with
    | isNull => rw [comparison, comparison, nulls rfl]
    | _ => rfl
  refine ⟨congrArg (column ++ ·) compared, ?_⟩
  unfold condition
  cases operator.bindsValue with
  | false => exact .none
  | true => exact .some operands

/-- Operands of coerced values have the same arity when lists have as many items. -/
theorem arity_operand_eq {schema : Option Schema} {field left right : String} {operator : Operator}
    {first second : Value} (readLeft : (coerce schema field left).value = .ok first)
    (readRight : (coerce schema field right).value = .ok second)
    (items : ItemsAlike schema field operator left right) :
    (operator.operand first).arity = (operator.operand second).arity := by
  by_cases list : operator = .isIn ∨ operator = .isNotIn
  · have same := items list first second readLeft readRight
    rcases list with rfl | rfl
    · exact same
    · exact same
  · have single {text : String} {value : Value}
        (read : (coerce schema field text).value = .ok value) :
        (operator.operand value).arity = 1 := by
      rcases coerced_kinds read with ⟨truth, rfl⟩ | rfl
      · cases operator <;> rfl
      · cases operator <;> first | rfl | simp at list
    rw [single readLeft, single readRight]

namespace Filter

/-- Two texts under one key contribute alike conditions, or both none, when the predicates cannot
tell them apart and the operands are related. -/
theorem condition?_alike {same : Value → Value → Prop} {filter : Filter} {schema : Option Schema}
    {key left right : String}
    (predicates : ∀ field operator, filter.role key = some (.field field operator) →
      PredicateAlike schema field operator left right)
    (operands : ∀ field operator first second, filter.role key = some (.field field operator) →
      (coerce schema field left).value = .ok first →
      (coerce schema field right).value = .ok second →
      same (operator.operand first) (operator.operand second)) :
    Option.Rel (Condition.Alike same) (filter.condition? schema (key, left))
      (filter.condition? schema (key, right)) := by
  rw [condition?, condition?]
  cases asked : filter.role key with
  | none => exact .none
  | some role =>
    cases role with
    | special key => exact .none
    | field field operator =>
      have indistinct := predicates field operator asked
      have related := operands field operator
      rw [PredicateAlike] at indistinct
      dsimp only
      cases readLeft : (coerce schema field left).value with
      | error cause =>
        cases readRight : (coerce schema field right).value with
        | error cause => exact .none
        | ok second => simp [readLeft, readRight] at indistinct
      | ok first =>
        cases readRight : (coerce schema field right).value with
        | error cause => simp [readLeft, readRight] at indistinct
        | ok second =>
          simp only [readLeft, readRight] at indistinct
          exact .some (Operator.condition_alike indistinct
            (related first second asked readLeft readRight))

/-- The conditions of two requests with the same keys are alike when those of each key are. -/
theorem conditions_alike {same : Value → Value → Prop} {filter : Filter} {schema : Option Schema}
    {first second : Params} (sameKeys : ∀ key, first.hasKey key = second.hasKey key)
    (alike : ∀ key left right, first.find? key = some left → second.find? key = some right →
      Option.Rel (Condition.Alike same) (filter.condition? schema (key, left))
        (filter.condition? schema (key, right))) :
    List.Forall₂ (Condition.Alike same) (filter.conditions schema first.entries)
      (filter.conditions schema second.entries) := by
  have keys := Entries.keys_eq_of_isSome_eq first.ascending second.ascending sameKeys
  have together := Entries.forall₂_of_keys_eq first.ascending second.ascending keys
  refine List.rel_filterMap ?_ together
  rintro ⟨key, left⟩ ⟨_, right⟩ ⟨rfl, here, there⟩
  exact alike key left right here there

/-- The conditions of a filter that is bound to one or the other of two requests are alike when
those of each key are, also where the filter does not read the request. -/
theorem conditions_boundTo_alike {same : Value → Value → Prop}
    (reflexive : ∀ value, same value value)
    {filter : Filter} {schema : Option Schema} {first second : Params}
    (sameKeys : ∀ key, first.hasKey key = second.hasKey key)
    (alike : ∀ key left right, first.find? key = some left → second.find? key = some right →
      Option.Rel (Condition.Alike same) (filter.condition? schema (key, left))
        (filter.condition? schema (key, right))) :
    List.Forall₂ (Condition.Alike same)
      (filter.conditions schema (filter.boundTo first).parameters.value.entries)
      (filter.conditions schema (filter.boundTo second).parameters.value.entries) := by
  rcases filter.parameters_boundTo with taken | fixed
  · rw [taken, taken]
    exact conditions_alike sameKeys alike
  · rw [fixed first second]
    refine List.forall₂_same.2 fun condition _ => ⟨rfl, ?_⟩
    cases condition.value with
    | none => exact .none
    | some value => exact .some (reflexive value)

/-- Alike conditions compile to the same predicates and as many values. -/
theorem compile_boundTo_alike {same : Value → Value → Prop} {filter : Filter}
    {schema : Option Schema} {first second : Params}
    (alike : List.Forall₂ (Condition.Alike same)
      (filter.conditions schema (filter.boundTo first).parameters.value.entries)
      (filter.conditions schema (filter.boundTo second).parameters.value.entries)) :
    ((filter.boundTo first).compile schema).value.predicates
        = ((filter.boundTo second).compile schema).value.predicates
      ∧ List.Forall₂ same ((filter.boundTo first).compile schema).value.values
          ((filter.boundTo second).compile schema).value.values := by
  rw [compile_value, compile_value]
  exact Condition.Alike.lists alike

/-- Filters that compile to the same predicates and to values of the same arities add alike
conditions. -/
theorem clause?_alike {left right : Filter} {schema : Option Schema}
    (predicates :
      (left.compile schema).value.predicates = (right.compile schema).value.predicates)
    (arities : List.Forall₂ (fun first second => first.arity = second.arity)
      (left.compile schema).value.values (right.compile schema).value.values) :
    List.Forall₂ Clause.Alike (left.clause? schema).toList (right.clause? schema).toList := by
  rw [clause?, clause?, Compiled.condition?, Compiled.condition?, Compiled.isEmpty,
    Compiled.isEmpty, Compiled.joined, Compiled.joined, predicates]
  split
  · exact .nil
  · refine .cons ⟨rfl, ?_⟩ .nil
    rwa [← List.forall₂_eq_eq_eq, List.forall₂_map_left_iff, List.forall₂_map_right_iff]

end Filter

/-- Requests with the same keys whose texts the operators cannot tell apart compile to the same
predicates and give every query the same SQL, or the same failure. -/
theorem injection_safety (filter : Filter) (schema : Option Schema) (first second : Params)
    (sameKeys : ∀ key, first.hasKey key = second.hasKey key)
    (predicates : ∀ key left right field operator,
      first.find? key = some left → second.find? key = some right →
      filter.role key = some (.field field operator) →
      PredicateAlike schema field operator left right) :
    let compiled (request : Params) := ((filter.boundTo request).compile schema).value
    (compiled first).predicates = (compiled second).predicates
      ∧ (compiled first).values.length = (compiled second).values.length
      ∧ ((∀ key left right field operator,
            first.find? key = some left → second.find? key = some right →
            filter.role key = some (.field field operator) →
            ItemsAlike schema field operator left right) →
          filter.handlers = [] → ∀ query : Select, query.schema = schema →
            ((filter.boundTo first).apply query).value.render.map Prod.fst
              = ((filter.boundTo second).apply query).value.render.map Prod.fst) := by
  intro compiled
  have related (same : Value → Value → Prop) (reflexive : ∀ value, same value value)
      (operands : ∀ key left right field operator v w,
        first.find? key = some left → second.find? key = some right →
        filter.role key = some (.field field operator) →
        (coerce schema field left).value = .ok v → (coerce schema field right).value = .ok w →
        same (operator.operand v) (operator.operand w)) :=
    Filter.compile_boundTo_alike (Filter.conditions_boundTo_alike reflexive sameKeys
      fun key left right here there => Filter.condition?_alike
        (fun field operator => predicates key left right field operator here there)
        (fun field operator v w => operands key left right field operator v w here there))
  obtain ⟨same, pairs⟩ := related (fun _ _ => True) (fun _ => trivial)
    fun _ _ _ _ _ _ _ _ _ _ _ _ => trivial
  refine ⟨same, pairs.length_eq, fun items noHandlers query sameSchema => ?_⟩
  subst sameSchema
  obtain ⟨texts, arities⟩ := related (fun v w => v.arity = w.arity) (fun _ => rfl)
    fun key left right field operator v w here there asked readLeft readRight =>
      arity_operand_eq readLeft readRight (items key left right field operator here there asked)
  rw [(filter.boundTo first).apply_value noHandlers, (filter.boundTo second).apply_value noHandlers]
  refine Select.render_text_congr query ?_
  have kept : List.Forall₂ Clause.Alike query.clauses query.clauses :=
    List.forall₂_same.2 fun clause _ => ⟨rfl, rfl⟩
  exact List.rel_append kept (Filter.clause?_alike texts arities)

/-- Values that hold quotes, question marks and SQL leave the SQL of a listing as it is. -/
theorem injection_safety_hostile_values :
    let filter : Filter := { fields := ["gone", "na\"me?"] }
    let plain : Params := {
      entries := [("gone__isnull", "true"), ("na\"me?__in", "a,b"), ("page", "1")]
      ascending := by unfold Entries.Ascending; decide }
    let hostile : Params := {
      entries := [("gone__isnull", "1"), ("na\"me?__in", "' OR 1=1 --,?\""), ("page", "2")]
      ascending := by unfold Entries.Ascending; decide }
    (∀ key, plain.hasKey key = hostile.hasKey key) ∧ filter.handlers = []
      ∧ ((filter.boundTo plain).apply { table := "t" }).value.render.map Prod.fst
        = ((filter.boundTo hostile).apply { table := "t" }).value.render.map Prod.fst := by
  intro filter plain hostile
  have sameKeys (key : String) : plain.hasKey key = hostile.hasKey key := by
    simp only [plain, hostile, Params.hasKey, Params.find?, Keyed.find?, List.lookup_cons]
    split <;> [rfl; split <;> [rfl; split <;> rfl]]
  have pairs {key left right field : String} {operator : Operator}
      (here : plain.find? key = some left) (there : hostile.find? key = some right)
      (asked : filter.role key = some (.field field operator)) :
      (left = "true" ∧ right = "1") ∨ (left = "a,b" ∧ right = "' OR 1=1 --,?\"") := by
    have reserved : filter.role "page" = none := rfl
    have plainEntry := (Entries.find?_eq_some_iff plain.ascending).1 here
    have hostileEntry := (Entries.find?_eq_some_iff hostile.ascending).1 there
    simp only [plain, hostile, List.mem_cons, Prod.mk.injEq, List.not_mem_nil, or_false]
      at plainEntry hostileEntry
    rcases plainEntry with ⟨rfl, rfl⟩ | ⟨rfl, rfl⟩ | ⟨rfl, rfl⟩
    · simpa using hostileEntry
    · simpa using hostileEntry
    · simp [reserved] at asked
  have safe := injection_safety filter none plain hostile sameKeys
    fun key left right field operator here there asked => by
      rcases pairs here there asked with ⟨rfl, rfl⟩ | ⟨rfl, rfl⟩
      · exact fun _ => rfl
      · exact fun _ => rfl
  have items : ∀ key left right field operator, plain.find? key = some left →
      hostile.find? key = some right → filter.role key = some (.field field operator) →
      ItemsAlike none field operator left right := by
    intro key left right field operator here there asked list first second readLeft readRight
    obtain rfl := Except.ok.inj readLeft
    obtain rfl := Except.ok.inj readRight
    rcases pairs here there asked with ⟨rfl, rfl⟩ | ⟨rfl, rfl⟩
    · rfl
    · rfl
  exact ⟨sameKeys, rfl, safe.2.2 items rfl { table := "t" } rfl⟩

end Listing
