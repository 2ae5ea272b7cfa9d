import Listing.Proofs.Rendering

/-!
# Queries that steps build

A caller builds a query from an empty one by steps in any number and order: each adds a condition,
adds an ordering, or sets one of the two bounds of the window. Main statements: `after_eq` says
what a run of steps leaves of each part, and `render_after` what the query renders to.
-/
namespace Listing

/-- A change that a caller makes to a query. -/
inductive Step where
  /-- Add a condition. -/
  | filterBy (clause : Clause)
  /-- Add an ordering. -/
  | orderBy (ordering : Ordering)
  /-- Leave out rows at the start. -/
  | skip (rows : UInt64)
  /-- Limit the number of rows. -/
  | take (rows : UInt64)

namespace Step

/-- Carry out a step. -/
def run (query : Select) : Step → Select
  | filterBy clause => query.filterBy clause.sql clause.values
  | orderBy ordering => query.orderBy ordering
  | skip rows => query.skip rows
  | take rows => query.take rows

/-- The condition that a step adds. -/
def clause? : Step → Option Clause
  | filterBy clause => some clause
  | _ => none

/-- The ordering that a step adds. -/
def ordering? : Step → Option Ordering
  | orderBy ordering => some ordering
  | _ => none

/-- The number of rows that a step leaves out. -/
def skipped? : Step → Option UInt64
  | skip rows => some rows
  | _ => none

/-- The number of rows that a step takes. -/
def taken? : Step → Option UInt64
  | take rows => some rows
  | _ => none

/-- A step adds its condition and its ordering at the end and replaces its bound of the window. -/
theorem run_eq (step : Step) (query : Select) :
    step.run query =
      { query with
        clauses := query.clauses ++ step.clause?.toList
        orderings := query.orderings ++ step.ordering?.toList
        window := {
          skip := step.skipped?.or query.window.skip
          take := step.taken?.or query.window.take } } := by
  cases step with
  | filterBy clause => simp [run, Select.filterBy, clause?, ordering?, skipped?, taken?]
  | orderBy ordering => simp [run, Select.orderBy, clause?, ordering?, skipped?, taken?]
  | skip rows => simp [run, Select.skip, clause?, ordering?, skipped?, taken?]
  | take rows => simp [run, Select.take, clause?, ordering?, skipped?, taken?]

end Step

namespace Select

/-- The query after steps in order. -/
def after (query : Select) (steps : List Step) : Select := steps.foldl Step.run query

/-- The last of several values, the first of which may be absent. -/
theorem getLast?_or {α : Type} (first : Option α) (later : List α) (before : Option α) :
    (first.toList ++ later).getLast?.or before = later.getLast?.or (first.or before) := by
  rw [List.getLast?_append, Option.or_assoc]
  cases first with
  | none => rfl
  | some value => rfl

/-- Steps add their conditions and their orderings in order; of several bounds of one kind the last
counts. -/
theorem after_eq (query : Select) (steps : List Step) :
    query.after steps =
      { query with
        clauses := query.clauses ++ steps.filterMap Step.clause?
        orderings := query.orderings ++ steps.filterMap Step.ordering?
        window := {
          skip := (steps.filterMap Step.skipped?).getLast?.or query.window.skip
          take := (steps.filterMap Step.taken?).getLast?.or query.window.take } } := by
  induction steps generalizing query with
  | nil => simp [after]
  | cons step rest ih =>
    have cut {α : Type} (part : Step → Option α) :
        (step :: rest).filterMap part = (part step).toList ++ rest.filterMap part := by
      cases found : part step <;> simp [found]
    change (step.run query).after rest = _
    rw [ih, Step.run_eq]
    simp only [cut, getLast?_or, List.append_assoc]

/-- The text of the orderings of a query. -/
def orderText (orderings : List Ordering) : String :=
  if orderings.isEmpty then "" else " ORDER BY " ++ ", ".intercalate (orderings.map Ordering.sql)

/-- The text of a limit on the number of rows. -/
def limitText : Option UInt64 → String
  | none => ""
  | some rows => " LIMIT " ++ toString rows.toNat

/-- The text of a number of rows left out. -/
def offsetText : Option UInt64 → String
  | none => ""
  | some rows => " OFFSET " ++ toString rows.toNat

/-- A window in front of which a space stands is the limit and the offset, each by itself. -/
theorem spaced_window_eq (window : Window) :
    (if window.isEmpty then "" else " " ++ window.sql)
      = limitText window.take ++ offsetText window.skip := by
  obtain ⟨skip, take⟩ := window
  have spaced (word text : String) : " " ++ (word ++ text) = " " ++ word ++ text :=
    (String.append_assoc ..).symm
  cases take with
  | none =>
    cases skip with
    | none => rfl
    | some rows => exact (spaced "OFFSET " _).trans (String.empty_append ..).symm
  | some limit =>
    cases skip with
    | none => exact (spaced "LIMIT " _).trans (String.append_empty ..).symm
    | some rows =>
      change " " ++ ("LIMIT " ++ toString limit.toNat ++ " " ++ ("OFFSET " ++ toString rows.toNat))
        = " LIMIT " ++ toString limit.toNat ++ (" OFFSET " ++ toString rows.toNat)
      simp only [String.append_assoc]
      rw [spaced "LIMIT ", spaced "OFFSET "]
      rfl

/-- The SQL after the conditions is the orderings, the limit and the offset. -/
theorem tail_eq (query : Select) :
    query.tail
      = orderText query.orderings ++ (limitText query.window.take
        ++ offsetText query.window.skip) := by
  rw [← spaced_window_eq]
  rfl

/-- A query that steps build renders exactly when every condition has as many placeholders as
values, to the conditions, orderings and bounds of the steps with their values as parameters. -/
theorem render_after (table : String) (dialect : Dialect) (schema : Option Schema)
    (steps : List Step) :
    let query := ({ table, dialect, schema } : Select).after steps
    let clauses := steps.filterMap Step.clause?
    ((∃ result, query.render = .ok result)
        ↔ ∀ clause ∈ clauses, clause.holes = clause.values.length)
      ∧ (∀ cause, query.render = .error cause ↔ ∃ before clause later,
          clauses = before ++ clause :: later ∧ clause.fault? = some cause
            ∧ ∀ earlier ∈ before, earlier.holes = earlier.values.length)
      ∧ ∀ sql parameters, query.render = .ok (sql, parameters) →
          parameters = clauses.flatMap (fun clause => clause.values.flatMap Value.expansion)
          ∧ Fragment.holes (whereLayout clauses) = parameters.length
          ∧ sql = "SELECT * FROM " ++ dialect.quote table
              ++ String.ofList (Fragment.fill
                ((List.range' 1 parameters.length).map dialect.placeholder) (whereLayout clauses))
              ++ (orderText (steps.filterMap Step.ordering?)
                ++ (limitText (steps.filterMap Step.taken?).getLast?
                  ++ offsetText (steps.filterMap Step.skipped?).getLast?)) := by
  intro query clauses
  have built : query = {
      table, dialect, schema, clauses
      orderings := steps.filterMap Step.ordering?
      window := {
        skip := (steps.filterMap Step.skipped?).getLast?
        take := (steps.filterMap Step.taken?).getLast? } } := by
    simp only [query, after_eq, List.nil_append, Option.or_none]
    rfl
  refine ⟨?_, fun cause => ?_, fun sql parameters rendered => ?_⟩
  · constructor
    · rintro ⟨⟨sql, parameters⟩, rendered⟩
      have sound := (render_eq_ok_iff.1 rendered).1
      rwa [built] at sound
    · intro sound
      refine ⟨_, render_eq_ok_iff.2 ⟨?_, rfl, rfl⟩⟩
      rwa [built]
  · rw [render_eq_error_iff, built]
  · obtain ⟨sound, text, bound⟩ := render_eq_ok_iff.1 rendered
    rw [tail_eq, ← bound, built] at text
    rw [built] at sound bound
    refine ⟨bound, ?_, text⟩
    rw [holes_whereLayout sound, bound]
    rfl

end Select

end Listing
