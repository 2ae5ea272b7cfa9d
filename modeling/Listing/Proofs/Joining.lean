import Listing.Proofs.Scopes
import Listing.Proofs.Substitution

/-!
# Fragments that are bound together

Binding goes through a fragment once, with the quotes that are open, the values that are left and
the number of parameters in hand. When no quotes are open between two fragments and the first uses
up its own values, all three are where they would be if the second were bound alone, after the
parameters of the first. Main statements: `bound_append` for layouts in sequence, `bind_append` for
fragments, and `bind_joined`, which adds the conditions of a query and the predicates of a filter.
-/
namespace Listing

namespace Fragment

variable (dialect : Dialect)

/-! ## Layouts in sequence -/

/-- The empty text in front changes nothing. -/
theorem Bound.after_nil (bound : Bound (List Char)) : bound.after [] = bound := by
  obtain ⟨result, parameters⟩ := bound
  cases result <;> rfl

/-- Texts that are put in front one after the other stand in front together. -/
theorem Bound.after_after (front next : List Char) (bound : Bound (List Char)) :
    (bound.after next).after front = bound.after (front ++ next) := by
  obtain ⟨result, parameters⟩ := bound
  cases result with
  | error mismatch => rfl
  | ok text => simp [Bound.after, Except.map]

/-- A layout that uses up its values is bound to a text, and what follows is bound behind this text
and after its parameters. -/
theorem bound_append {first : List Token} {values : List Value} (fits : holes first = values.length)
    (later : List Token) (more before : List Value) :
    ∃ text, bound dialect first values before
        = ⟨.ok text, before ++ values.flatMap Value.expansion⟩
      ∧ bound dialect (first ++ later) (values ++ more) before
        = (bound dialect later more (before ++ values.flatMap Value.expansion)).after text := by
  induction first generalizing values before with
  | nil =>
    obtain rfl := List.length_eq_zero_iff.1 (fits.symm.trans holes_nil)
    refine ⟨[], by simp [bound, mismatch?, expand, fill], ?_⟩
    rw [List.flatMap_nil, List.append_nil, Bound.after_nil]
    rfl
  | cons token rest ih =>
    cases token with
    | char c =>
      rw [holes_char] at fits
      obtain ⟨text, alone, joined⟩ := ih fits before
      refine ⟨c :: text, ?_, ?_⟩
      · rw [bound_char, alone]
        rfl
      · rw [List.cons_append, bound_char, joined, Bound.after_after]
        rfl
    | hole =>
      rw [holes_hole] at fits
      cases values with
      | nil => contradiction
      | cons value values =>
        obtain ⟨text, alone, joined⟩ := ih (Nat.succ.inj fits) (before ++ value.expansion)
        rw [List.append_assoc] at alone joined
        refine ⟨(placeholders dialect before.length value).toList ++ text, ?_, ?_⟩
        · rw [bound_hole]
          dsimp only
          rw [alone]
          rfl
        · rw [List.cons_append, List.cons_append, bound_hole]
          dsimp only
          rw [joined, Bound.after_after]
          rfl

/-! ## Fragments in sequence -/

/-- A text is complete when it is settled and its layout has so many holes. -/
theorem complete_iff {text : String} {count : Nat} :
    Complete text.toList count ↔ Settled text.toList ∧ holes (layout text) = count := by
  rw [← quotesAfterAll_eq_none_iff, layout, ← tokens_eq_layoutOf]
  constructor
  · intro complete
    exact ⟨complete.closed, complete.holes_eq⟩
  · rintro ⟨closed, fits⟩
    exact ⟨closed, fits⟩

/-- The layout of a complete text does not depend on what follows it. -/
theorem layout_append {first : String} {count : Nat} (complete : Complete first.toList count)
    (second : String) : layout (first ++ second) = layout first ++ layout second := by
  rw [layout, layout, layout, ← tokens_eq_layoutOf, ← tokens_eq_layoutOf, ← tokens_eq_layoutOf,
    String.toList_append, tokens_append, complete.closed]

/-- A complete fragment that uses up its values is bound to a text, and what follows is bound behind
this text and after its parameters. -/
theorem bind_append {first : String} {values : List Value}
    (complete : Complete first.toList values.length) (second : String) (later before : List Value) :
    let next := bind dialect second later (before ++ values.flatMap Value.expansion)
    ∃ text, bind dialect first values before
        = ⟨.ok text, before ++ values.flatMap Value.expansion⟩
      ∧ bind dialect (first ++ second) (values ++ later) before
        = ⟨next.result.map (text ++ ·), next.parameters⟩ := by
  intro next
  obtain ⟨text, alone, joined⟩ :=
    bound_append dialect complete.holes_layout (layout second) later before
  refine ⟨String.ofList text, ?_, ?_⟩
  · rw [bind_eq, alone]
    rfl
  · rw [bind_eq, layout_append complete, joined]
    simp only [next, bind_eq, Bound.after]
    cases (bound dialect (layout second) later _).result with
    | error mismatch => rfl
    | ok rest => simp [Except.map]

/-- Two fragments that are bound one after the other are bound together to their texts, when the
first is complete and uses up its values. -/
theorem bind_append_of_eq {first second : String} {values later before between after : List Value}
    {text rest : String} (complete : Complete first.toList values.length)
    (alone : bind dialect first values before = ⟨.ok text, between⟩)
    (next : bind dialect second later between = ⟨.ok rest, after⟩) :
    bind dialect (first ++ second) (values ++ later) before = ⟨.ok (text ++ rest), after⟩ := by
  obtain ⟨same, found, joined⟩ := bind_append dialect complete second later before
  obtain ⟨shared, rfl⟩ := Bound.mk.inj (alone.symm.trans found)
  obtain rfl := Except.ok.inj shared
  rw [joined, next]
  rfl

/-- A complete fragment without places for values is bound to itself. -/
theorem bind_of_no_holes {text : String} (complete : Complete text.toList 0)
    (before : List Value) : bind dialect text [] before = ⟨.ok text, before⟩ := by
  have kept : fill [] (layout text) = text.toList := by
    have filled := fill_tokens none text.toList
    rwa [complete.holes_eq, tokens_eq_layoutOf] at filled
  have fits : holes (layout text) = ([] : List Value).length := complete.holes_layout
  rw [bind_of_fits dialect before fits, replacements, kept, String.ofList_toList,
    List.flatMap_nil, List.append_nil]

/-- A question mark between two complete texts without places for values is the place of the one
value that is bound. -/
theorem bind_place {front back : String} (opening : Complete front.toList 0)
    (closing : Complete back.toList 0) (value : Value) (before : List Value) :
    bind dialect (front ++ "?" ++ back) [value] before
      = ⟨.ok (front ++ replacement dialect before.length value ++ back),
        before ++ value.expansion⟩ := by
  have mark : Complete "?".toList [value].length := ⟨rfl, rfl⟩
  have placed : bind dialect "?" [value] before
      = ⟨.ok (replacement dialect before.length value), before ++ value.expansion⟩ := by
    rw [bind_of_fits dialect before mark.holes_layout, layout, ← tokens_eq_layoutOf]
    simp [tokens, replacements, fill]
  have filled := bind_append_of_eq dialect opening (bind_of_no_holes dialect opening before) placed
  have wider := opening.append mark
  rw [← String.toList_append, Nat.zero_add] at wider
  have whole := bind_append_of_eq dialect wider filled (bind_of_no_holes dialect closing _)
  rwa [List.append_nil] at whole

end Fragment

namespace Select

open Fragment (Complete)

/-- A complete condition is bound to its bound text. -/
theorem bind_complete (dialect : Dialect) {clause : Clause}
    (complete : Complete clause.sql.toList clause.values.length) (before : List Value) :
    Fragment.bind dialect clause.sql clause.values before
      = ⟨.ok (String.ofList (Fragment.fill (Fragment.placeholdersFrom dialect (before.length + 1)
          clause.parameters.length) clause.layout)), before ++ clause.parameters⟩ := by
  have fits : clause.holes = clause.values.length := complete.holes_layout
  have none : Fragment.mismatch? clause.holes clause.values.length = none := by
    rw [fits, Fragment.mismatch?, if_neg (Nat.lt_irrefl _), if_neg (Nat.lt_irrefl _)]
  rw [bind_clause, none]

/-- Complete conditions in a conjunction are bound to the conjunction of their bound texts. -/
theorem bind_intercalate (dialect : Dialect) {clauses : List Clause}
    (complete : ∀ clause ∈ clauses, Complete clause.sql.toList clause.values.length)
    (before : List Value) :
    Fragment.bind dialect (" AND ".intercalate (clauses.map Clause.sql))
        (clauses.flatMap Clause.values) before
      = ⟨.ok (" AND ".intercalate (boundTexts dialect before.length clauses)),
        before ++ clauses.flatMap Clause.parameters⟩ := by
  induction clauses generalizing before with
  | nil => simp only [List.flatMap_nil, List.append_nil]; rfl
  | cons clause rest ih =>
    have own := complete clause List.mem_cons_self
    have first := bind_complete dialect own before
    cases rest with
    | nil =>
      rw [List.flatMap_cons, List.flatMap_nil, List.append_nil, List.flatMap_cons,
        List.flatMap_nil, List.append_nil]
      exact first
    | cons next rest =>
      have later := ih (fun clause member => complete clause (List.mem_cons_of_mem _ member))
        (before ++ clause.parameters)
      have joint : Complete " AND ".toList 0 := ⟨rfl, rfl⟩
      have wide := Fragment.bind_append_of_eq dialect own first
        (Fragment.bind_of_no_holes dialect joint (before ++ clause.parameters))
      have wider := own.append joint
      rw [List.append_nil] at wide
      rw [← String.toList_append] at wider
      have all := Fragment.bind_append_of_eq dialect wider wide later
      rw [List.length_append, List.append_assoc, boundTexts] at all
      rw [List.map_cons, List.map_cons, String.intercalate_cons_cons, boundTexts, boundTexts,
        String.intercalate_cons_cons]
      exact all

end Select

/-- The condition of a query that a condition of a filter becomes when it stands alone. -/
def Condition.clause (condition : Condition) : Clause := ⟨condition.sql, condition.value.toList⟩

namespace Filter

/-- The conditions of a query that a filter is compiled to, one for each predicate. -/
def clauses (filter : Filter) (schema : Option Schema) : List Clause :=
  (filter.conditions schema filter.parameters.value.entries).map Condition.clause

/-- The compiled predicates are the texts of these conditions. -/
theorem predicates_eq_clauses (filter : Filter) (schema : Option Schema) :
    (filter.compile schema).value.predicates = (filter.clauses schema).map Clause.sql := by
  rw [compile_value, clauses, List.map_map]
  rfl

/-- The compiled values are the values of these conditions in order. -/
theorem values_eq_clauses (filter : Filter) (schema : Option Schema) :
    (filter.compile schema).value.values = (filter.clauses schema).flatMap Clause.values := by
  rw [compile_value, clauses, List.flatMap_map]
  exact List.filterMap_eq_flatMap_toList _ _

/-- Each of these conditions is complete. -/
theorem complete_clauses {filter : Filter} {schema : Option Schema} {clause : Clause}
    (member : clause ∈ filter.clauses schema) :
    Fragment.Complete clause.sql.toList clause.values.length := by
  obtain ⟨condition, inside, rfl⟩ := List.mem_map.1 member
  exact complete_conditions inside

end Filter

/-- Binding fragments that are joined is binding them one after the other, on success and on
failure; so are the conditions of a query and the predicates of a filter. -/
theorem bind_joined (dialect : Dialect) (before : List Value) :
    (∀ (first second : String) (values later : List Value),
        Fragment.Settled first.toList →
        Fragment.holes (Fragment.layout first) = values.length →
        let one := Fragment.bind dialect first values before
        let two := Fragment.bind dialect second later one.parameters
        let joined := Fragment.bind dialect (first ++ second) (values ++ later) before
        ∃ text, one.result = .ok text ∧ joined.result = two.result.map (text ++ ·)
          ∧ joined.parameters = two.parameters)
      ∧ (∀ clauses : List Clause,
          (∀ clause ∈ clauses,
            Fragment.Settled clause.sql.toList ∧ clause.holes = clause.values.length) →
          ∃ texts parameters,
            Select.bindClauses dialect clauses before = .ok (texts, parameters)
              ∧ Fragment.bind dialect (" AND ".intercalate (clauses.map Clause.sql))
                  (clauses.flatMap Clause.values) before
                = ⟨.ok (" AND ".intercalate texts), parameters⟩)
      ∧ ∀ (filter : Filter) (schema : Option Schema),
          let compiled := (filter.compile schema).value
          ∃ clauses texts parameters,
            compiled.predicates = clauses.map Clause.sql
              ∧ compiled.values = clauses.flatMap Clause.values
              ∧ (∀ clause ∈ clauses, clause.values.length ≤ 1)
              ∧ Select.bindClauses dialect clauses before = .ok (texts, parameters)
              ∧ Fragment.bind dialect compiled.joined compiled.values before
                = ⟨.ok (" AND ".intercalate texts), parameters⟩ := by
  have sequence {clauses : List Clause}
      (complete : ∀ clause ∈ clauses,
        Fragment.Complete clause.sql.toList clause.values.length) :
      Select.bindClauses dialect clauses before
        = .ok (Select.boundTexts dialect before.length clauses,
          before ++ clauses.flatMap Clause.parameters) := by
    have sound : clauses.findSome? Clause.fault? = none :=
      List.findSome?_eq_none_iff.2 fun clause member =>
        Clause.fault?_eq_none_iff.2 (complete clause member).holes_layout
    rw [Select.bindClauses_eq, sound]
  refine ⟨?pair, ?list, ?filter⟩
  case pair =>
    intro first second values later settled fits one two joined
    have complete := Fragment.complete_iff.2 ⟨settled, fits⟩
    obtain ⟨text, alone, together⟩ := Fragment.bind_append dialect complete second later before
    have bound : one = _ := alone
    have both : joined = _ := together
    refine ⟨text, congrArg Fragment.Bound.result bound, ?_⟩
    simp only [two, bound, both, and_self]
  case list =>
    intro clauses sound
    have complete : ∀ clause ∈ clauses,
        Fragment.Complete clause.sql.toList clause.values.length :=
      fun clause member => Fragment.complete_iff.2 (sound clause member)
    exact ⟨_, _, sequence complete, Select.bind_intercalate dialect complete before⟩
  case filter =>
    intro filter schema compiled
    have complete : ∀ clause ∈ filter.clauses schema,
        Fragment.Complete clause.sql.toList clause.values.length :=
      fun clause member => Filter.complete_clauses member
    refine ⟨filter.clauses schema, _, _, filter.predicates_eq_clauses schema,
      filter.values_eq_clauses schema, ?_, sequence complete, ?_⟩
    · intro clause member
      obtain ⟨condition, _, rfl⟩ := List.mem_map.1 member
      cases bound : condition.value <;> simp [Condition.clause, bound]
    · have joined : compiled.joined
          = " AND ".intercalate ((filter.clauses schema).map Clause.sql) :=
        congrArg " AND ".intercalate (filter.predicates_eq_clauses schema)
      have values : compiled.values = (filter.clauses schema).flatMap Clause.values :=
        filter.values_eq_clauses schema
      rw [joined, values]
      exact Select.bind_intercalate dialect complete before

end Listing
