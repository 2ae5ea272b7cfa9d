import Listing.Proofs.Binding
import Listing.Select

/-!
# What a query renders to

A query renders exactly when each of its conditions has as many holes as values, and then its text
is a layout that depends on the texts of the conditions and on the arities of their values alone,
filled with the placeholders from the first to the last. Main statements: `render_eq` gives the
text, the parameters and the failures of every query, `render_eq_ok_iff` and `render_eq_error_iff`
say when it renders and which failure it has, and `render_text_congr` that values of the same
arities give the same text.
-/
namespace Listing

/-! ## Conditions -/

namespace Clause

/-- The number of placeholders of a condition. -/
def holes (clause : Clause) : Nat := Fragment.holes (Fragment.layout clause.sql)

/-- The failure of a condition whose placeholders are not as many as its values. -/
def fault? (clause : Clause) : Option Cause :=
  (Fragment.mismatch? clause.holes clause.values.length).map (Fragment.Mismatch.cause clause.sql)

/-- The parameters of a condition: its values, with the items in place of each list. -/
def parameters (clause : Clause) : List Value := clause.values.flatMap Value.expansion

/-- The layout of a condition in which each hole is spread over the items of its value. -/
def layout (clause : Clause) : List Fragment.Token :=
  Fragment.expand (clause.values.map Value.arity) (Fragment.layout clause.sql)

/-- A condition has no fault exactly when its placeholders are as many as its values. -/
theorem fault?_eq_none_iff {clause : Clause} :
    clause.fault? = none ↔ clause.holes = clause.values.length := by
  rw [fault?, Option.map_eq_none_iff, Fragment.mismatch?]
  constructor
  · intro fits
    split at fits
    · contradiction
    · split at fits
      · contradiction
      · omega
  · intro same
    rw [if_neg (by omega), if_neg (by omega)]

/-- The layout of a condition without fault has a hole for each parameter. -/
theorem holes_layout {clause : Clause} (sound : clause.fault? = none) :
    Fragment.holes clause.layout = clause.parameters.length := by
  have fits : Fragment.holes (Fragment.layout clause.sql)
      = (clause.values.map Value.arity).length := by
    rw [List.length_map]
    exact fault?_eq_none_iff.1 sound
  rw [layout, Fragment.holes_expand fits, parameters, Fragment.length_flatMap_expansion]

end Clause

namespace Select

open Fragment (Token fill placeholdersFrom literal)

/-- The layout of several conditions, each in parentheses. -/
def grouped : List (List Token) → List Token
  | [] => []
  | [layout] => literal ['('] ++ layout ++ literal [')']
  | layout :: next :: rest =>
    literal ['('] ++ layout ++ literal [')'] ++ literal " AND ".toList ++ grouped (next :: rest)

/-- The layout of a conjunction; a single condition stands without parentheses. -/
def conjoined : List (List Token) → List Token
  | [] => []
  | [layout] => layout
  | layouts => grouped layouts

/-- The layout of what follows the name of the table, up to the orderings. -/
def whereLayout (clauses : List Clause) : List Token :=
  if clauses.isEmpty then [] else literal " WHERE ".toList ++ conjoined (clauses.map Clause.layout)

/-- The parameters of a query, in the order of its conditions. -/
def parameters (query : Select) : List Value := query.clauses.flatMap Clause.parameters

/-- The bound texts of conditions when so many parameters are bound before them. -/
def boundTexts (dialect : Dialect) : Nat → List Clause → List String
  | _, [] => []
  | count, clause :: rest =>
    String.ofList (fill (placeholdersFrom dialect (count + 1) clause.parameters.length)
        clause.layout)
      :: boundTexts dialect (count + clause.parameters.length) rest

/-- A single condition binds to its bound text, or fails with its fault. -/
theorem bind_clause {dialect : Dialect} {clause : Clause} {before : List Value} :
    Fragment.bind dialect clause.sql clause.values before
      = match Fragment.mismatch? clause.holes clause.values.length with
        | some mismatch =>
          ⟨.error mismatch, before ++ (clause.values.take clause.holes).flatMap Value.expansion⟩
        | none =>
          ⟨.ok (String.ofList (fill
            (placeholdersFrom dialect (before.length + 1) clause.parameters.length)
            clause.layout)), before ++ clause.parameters⟩ := by
  rw [Fragment.bind_eq, Fragment.bound]
  cases fits : Fragment.mismatch? clause.holes clause.values.length with
  | some mismatch =>
    rw [Clause.holes] at fits
    simp only [fits]
    rfl
  | none =>
    have same : clause.holes = clause.values.length :=
      Clause.fault?_eq_none_iff.1 (by rw [Clause.fault?, fits]; rfl)
    rw [Clause.holes] at fits same
    simp only [fits]
    rw [same, List.take_length]
    rfl

/-- Conditions bind in order, each after the parameters of those before it, and the first fault
ends the binding. -/
theorem bindClauses_eq (dialect : Dialect) (clauses : List Clause) (before : List Value) :
    bindClauses dialect clauses before
      = match clauses.findSome? Clause.fault? with
        | some cause => .error cause
        | none => .ok (boundTexts dialect before.length clauses,
            before ++ clauses.flatMap Clause.parameters) := by
  induction clauses generalizing before with
  | nil => simp [bindClauses, boundTexts]
  | cons clause rest ih =>
    rw [bindClauses, bind_clause, List.findSome?_cons, Clause.fault?]
    cases Fragment.mismatch? clause.holes clause.values.length with
    | some mismatch => rfl
    | none =>
      simp only [Option.map_none, ih]
      cases rest.findSome? Clause.fault? with
      | some cause => rfl
      | none => simp [boundTexts]

/-- A layout between two texts takes its own texts. -/
theorem fill_between (front back : List Char) {texts : List String} {layout : List Token}
    (enough : texts.length = Fragment.holes layout) :
    fill texts (literal front ++ layout ++ literal back) = front ++ fill texts layout ++ back := by
  have filled := Fragment.fill_append [] (literal back) enough
  rw [List.append_nil, Fragment.fill_literal] at filled
  rw [List.append_assoc, Fragment.fill_literal_append, filled, List.append_assoc]

/-- Bound texts in parentheses are the grouped layouts, filled with consecutive placeholders. -/
theorem intercalate_boundTexts (dialect : Dialect) (count : Nat) {clauses : List Clause}
    (sound : ∀ clause ∈ clauses, clause.fault? = none) :
    (" AND ".intercalate
        ((boundTexts dialect count clauses).map fun text => "(" ++ text ++ ")")).toList
      = fill (placeholdersFrom dialect (count + 1) (clauses.flatMap Clause.parameters).length)
          (grouped (clauses.map Clause.layout)) := by
  induction clauses generalizing count with
  | nil => rfl
  | cons clause rest ih =>
    have own : (placeholdersFrom dialect (count + 1) clause.parameters.length).length
        = Fragment.holes clause.layout := by
      rw [Fragment.length_placeholdersFrom, Clause.holes_layout (sound clause List.mem_cons_self)]
    have wrapped := fill_between ['('] [')'] own
    cases rest with
    | nil =>
      simp only [boundTexts, List.map_cons, List.map_nil, String.intercalate_singleton, grouped, wrapped,
        List.flatMap_cons, List.flatMap_nil, List.append_nil, String.toList_append,
        String.toList_ofList]
      rfl
    | cons next rest =>
      have later := ih (count + clause.parameters.length)
        fun clause member => sound clause (List.mem_cons_of_mem _ member)
      have position : count + clause.parameters.length + 1
          = count + 1 + clause.parameters.length := Nat.add_right_comm _ _ _
      have enough : (placeholdersFrom dialect (count + 1) clause.parameters.length).length
          = Fragment.holes (literal ['('] ++ clause.layout ++ literal [')']) := by
        rw [own]
        simp
      rw [position] at later
      rw [List.flatMap_cons, List.length_append, Fragment.placeholdersFrom_add]
      simp only [boundTexts, List.map_cons] at later
      simp only [boundTexts, List.map_cons, String.intercalate_cons_cons, grouped, String.toList_append,
        String.toList_ofList, later]
      rw [List.append_assoc (literal ['('] ++ clause.layout ++ literal [')']),
        Fragment.fill_append _ _ enough, wrapped, Fragment.fill_literal_append]
      exact List.append_assoc _ _ _

/-- The conjunction of bound texts is the conjoined layout, filled with consecutive placeholders. -/
theorem conjunction_boundTexts (dialect : Dialect) (count : Nat) {clauses : List Clause}
    (sound : ∀ clause ∈ clauses, clause.fault? = none) :
    (conjunction (boundTexts dialect count clauses)).toList
      = fill (placeholdersFrom dialect (count + 1) (clauses.flatMap Clause.parameters).length)
          (conjoined (clauses.map Clause.layout)) := by
  cases clauses with
  | nil => rfl
  | cons clause rest =>
    cases rest with
    | nil =>
      simp only [boundTexts, conjunction, conjoined, List.map_cons, List.map_nil,
        String.toList_ofList, List.flatMap_cons, List.flatMap_nil, List.append_nil]
    | cons next rest =>
      have filled := intercalate_boundTexts dialect count sound
      simp only [boundTexts, List.map_cons] at filled
      simpa only [boundTexts, conjunction, conjoined, List.map_cons] using filled

/-- A query fails with the fault of its first condition that has one. A query without faults
renders to the layout of its conditions, filled with the placeholders from the first on. -/
theorem render_eq (query : Select) :
    query.render
      = match query.clauses.findSome? Clause.fault? with
        | some cause => .error cause
        | none => .ok ("SELECT * FROM " ++ query.dialect.quote query.table
            ++ String.ofList (fill (placeholdersFrom query.dialect 1 query.parameters.length)
              (whereLayout query.clauses))
            ++ query.tail, query.parameters) := by
  rw [render, bindClauses_eq]
  cases sound : query.clauses.findSome? Clause.fault? with
  | some cause => rfl
  | none =>
    have each := List.findSome?_eq_none_iff.1 sound
    have text := conjunction_boundTexts query.dialect 0 each
    have empty : (boundTexts query.dialect 0 query.clauses).isEmpty = query.clauses.isEmpty := by
      cases query.clauses <;> rfl
    dsimp only
    rw [List.length_nil, empty, whereLayout, parameters]
    split
    · rw [fill, String.ofList_nil]
      rfl
    · rw [Fragment.fill_literal_append, ← text, ← String.toList_append, String.ofList_toList]
      rfl

/-- A query fails exactly with the fault of the first condition that has one. -/
theorem render_eq_error_iff {query : Select} {cause : Cause} :
    query.render = .error cause ↔ ∃ before clause later,
      query.clauses = before ++ clause :: later ∧ clause.fault? = some cause
        ∧ ∀ earlier ∈ before, earlier.holes = earlier.values.length := by
  have first : query.render = .error cause
      ↔ query.clauses.findSome? Clause.fault? = some cause := by
    rw [render_eq]
    cases query.clauses.findSome? Clause.fault? <;> simp
  rw [first, List.findSome?_eq_some_iff]
  simp only [Clause.fault?_eq_none_iff]

/-- A query renders exactly when every condition has as many placeholders as values, and only to
the text and the parameters of its conditions. -/
theorem render_eq_ok_iff {query : Select} {sql : String} {parameters : List Value} :
    query.render = .ok (sql, parameters)
      ↔ (∀ clause ∈ query.clauses, clause.holes = clause.values.length)
        ∧ sql = "SELECT * FROM " ++ query.dialect.quote query.table
          ++ String.ofList (fill (placeholdersFrom query.dialect 1 query.parameters.length)
            (whereLayout query.clauses))
          ++ query.tail
        ∧ parameters = query.parameters := by
  have sound : query.clauses.findSome? Clause.fault? = none
      ↔ ∀ clause ∈ query.clauses, clause.holes = clause.values.length := by
    rw [List.findSome?_eq_none_iff]
    simp only [Clause.fault?_eq_none_iff]
  rw [render_eq, ← sound]
  cases query.clauses.findSome? Clause.fault? with
  | some cause => simp
  | none =>
    simp only [Except.ok.injEq, Prod.mk.injEq, true_and]
    constructor
    · rintro ⟨text, bound⟩
      exact ⟨text.symm, bound.symm⟩
    · rintro ⟨text, bound⟩
      exact ⟨text.symm, bound.symm⟩

/-- Grouped layouts have the holes of all of them. -/
theorem holes_grouped {layouts : List (List Token)} :
    Fragment.holes (grouped layouts) = (layouts.map Fragment.holes).sum := by
  induction layouts using grouped.induct with
  | case1 => rfl
  | case2 layout => simp [grouped]
  | case3 layout next rest ih => simp [grouped, ih]

/-- The layout of conditions without faults has a hole for each parameter. -/
theorem holes_whereLayout {clauses : List Clause}
    (sound : ∀ clause ∈ clauses, clause.holes = clause.values.length) :
    Fragment.holes (whereLayout clauses) = (clauses.flatMap Clause.parameters).length := by
  have each : clauses.map (fun clause => Fragment.holes clause.layout)
      = clauses.map fun clause => clause.parameters.length :=
    List.map_congr_left fun clause member =>
      Clause.holes_layout (Clause.fault?_eq_none_iff.2 (sound clause member))
  rw [List.length_flatMap, ← each]
  cases clauses with
  | nil => rfl
  | cons clause rest =>
    cases rest with
    | nil => simp [whereLayout, conjoined]
    | cons next rest => simp [whereLayout, conjoined, holes_grouped, Function.comp_def]

end Select

/-! ## Values of the same arities -/

/-- Two conditions that differ in nothing but values of the same arities. -/
structure Clause.Alike (first second : Clause) : Prop where
  /-- The fragments are the same. -/
  sql : first.sql = second.sql
  /-- The values become as many parameters, one by one. -/
  arities : first.values.map Value.arity = second.values.map Value.arity

namespace Clause.Alike

variable {first second : Clause}

/-- Alike conditions have as many values. -/
theorem length_values (alike : first.Alike second) :
    first.values.length = second.values.length := by
  have lengths := congrArg List.length alike.arities
  rwa [List.length_map, List.length_map] at lengths

/-- Alike conditions have the same fault. -/
theorem fault?_eq (alike : first.Alike second) : first.fault? = second.fault? := by
  rw [fault?, fault?, holes, holes, alike.sql, alike.length_values]

/-- Alike conditions have the same layout. -/
theorem layout_eq (alike : first.Alike second) : first.layout = second.layout := by
  rw [layout, layout, alike.sql, alike.arities]

/-- Alike conditions have as many parameters. -/
theorem length_parameters (alike : first.Alike second) :
    first.parameters.length = second.parameters.length := by
  rw [parameters, parameters, Fragment.length_flatMap_expansion,
    Fragment.length_flatMap_expansion, alike.arities]

end Clause.Alike

namespace Select

/-- Alike lists of conditions have the same faults, the same layouts and as many parameters. -/
theorem alike_clauses {first second : List Clause}
    (alike : List.Forall₂ Clause.Alike first second) :
    first.findSome? Clause.fault? = second.findSome? Clause.fault?
      ∧ first.map Clause.layout = second.map Clause.layout
      ∧ (first.flatMap Clause.parameters).length = (second.flatMap Clause.parameters).length := by
  induction alike with
  | nil => exact ⟨rfl, rfl, rfl⟩
  | cons head _ ih =>
    obtain ⟨faults, layouts, counts⟩ := ih
    refine ⟨?_, ?_, ?_⟩
    · rw [List.findSome?_cons, List.findSome?_cons, head.fault?_eq, faults]
    · rw [List.map_cons, List.map_cons, head.layout_eq, layouts]
    · rw [List.flatMap_cons, List.flatMap_cons, List.length_append, List.length_append,
        head.length_parameters, counts]

/-- The text of a query, and its failure, depend on the arities of its values alone. -/
theorem render_text_congr (query : Select) {first second : List Clause}
    (alike : List.Forall₂ Clause.Alike first second) :
    ({ query with clauses := first }.render).map Prod.fst
      = ({ query with clauses := second }.render).map Prod.fst := by
  obtain ⟨faults, layouts, counts⟩ := alike_clauses alike
  have empty : first.isEmpty = second.isEmpty := by cases alike <;> rfl
  have wheres : whereLayout first = whereLayout second := by
    rw [whereLayout, whereLayout, empty, layouts]
  simp only [render_eq, faults]
  cases second.findSome? Clause.fault? with
  | some cause => rfl
  | none =>
    simp only [Except.map, parameters, counts, wheres]
    rfl

end Select

end Listing
