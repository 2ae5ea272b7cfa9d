import Listing.Proofs.AllowList

/-!
# A field and its test for equality

The name of an allowed field asks for the same comparison as the name with the word for equality
behind two underscores. A parameter may carry either name, but its place among the others changes
with it, and so do the places of its predicate and its value. Main statements: `role_spelled` says
what a name with an operator asks for, `exists_rename` where a parameter stands before and after it
is renamed, and `compile_rename` that a filter compiles both requests to the same conditions.
-/
namespace Listing

namespace Filter

/-- The name of an allowed field asks for equality. -/
theorem role_field {filter : Filter} {field : String} (allowed : field ∈ filter.fields)
    (unreserved : field ∉ filter.settings.reserved)
    (ordinary : filter.handlers.hasKey field = false) :
    filter.role field = some (.field field .equal) := by
  rw [Filter.role, if_neg (fun reserved => unreserved (List.contains_iff_mem.1 reserved))]
  exact Role.ofKey_of_mem ordinary allowed

/-- The name of an allowed field with two underscores and the name of an operator behind it asks for
the operator, unless the whole is the name of something else. -/
theorem role_spelled {filter : Filter} {field : String} (operator : Operator)
    (allowed : field ∈ filter.fields) (apart : ¬ ['_', '_'] <:+: field.toList)
    (closed : field.toList.getLast? ≠ some '_')
    (unreserved : field ++ "__" ++ operator.name ∉ filter.settings.reserved)
    (ordinary : filter.handlers.hasKey (field ++ "__" ++ operator.name) = false)
    (free : field ++ "__" ++ operator.name ∉ filter.fields) :
    filter.role (field ++ "__" ++ operator.name) = some (.field field operator) := by
  have spells : Role.Spells (field ++ "__" ++ operator.name) field operator := ⟨rfl, apart, closed⟩
  rw [Filter.role, if_neg (fun reserved => unreserved (List.contains_iff_mem.1 reserved))]
  exact Role.ofKey_eq_field_iff.2 ⟨ordinary, .inr ⟨free, allowed, operator.mem_all, spells⟩⟩

/-- The condition of a parameter depends on what its name asks for. -/
theorem condition?_eq_of_role {filter : Filter} {schema : Option Schema} {first second : String}
    (same : filter.role first = filter.role second) (text : String) :
    filter.condition? schema (first, text) = filter.condition? schema (second, text) := by
  rw [condition?, condition?, same]

/-- A parameter that asks for a comparison is not set aside. -/
theorem special?_eq_none {filter : Filter} {key field : String} {operator : Operator}
    (asked : filter.role key = some (.field field operator)) (text : String) :
    filter.special? (key, text) = none := by
  rw [special?, asked]

end Filter

namespace Params

/-- The parameters without one of them. -/
def erase (params : Params) (name : String) : Params :=
  ⟨params.entries.filter fun entry => entry.1 != name, params.ascending.filter _⟩

/-- The parameters with the value of one name under another. -/
def rename (params : Params) (old new : String) : Params :=
  match params.find? old with
  | none => params
  | some value => (params.erase old).insert new value

/-- Without a parameter nothing is found under its name, and under the other names what was found
before. -/
theorem find?_erase {params : Params} {name key : String} :
    (params.erase name).find? key = if key = name then none else params.find? key := by
  refine (@Entries.find?_filter _ params.entries (fun other => other != name) key).trans ?_
  by_cases same : key = name
  · rw [if_pos same, if_neg (by simp [same])]
  · rw [if_neg same, if_pos (bne_iff_ne.2 same)]
    rfl

/-- A parameter stands between those with lesser and those with greater names. -/
theorem exists_split {params : Params} {name value : String}
    (found : params.find? name = some value) :
    ∃ before after, params.entries = before ++ (name, value) :: after
      ∧ (params.erase name).entries = before ++ after
      ∧ (∀ entry ∈ before, entry.1 < name) ∧ ∀ entry ∈ after, name < entry.1 := by
  have member := (Entries.find?_eq_some_iff params.ascending).1 found
  obtain ⟨before, after, split⟩ := List.append_of_mem member
  have ascending : Entries.Ascending (before ++ (name, value) :: after) :=
    split ▸ params.ascending
  obtain ⟨-, greater, lesser⟩ := List.pairwise_append.1 ascending
  have less (entry : String × String) (inside : entry ∈ before) : entry.1 < name :=
    lesser entry inside (name, value) List.mem_cons_self
  have more (entry : String × String) (inside : entry ∈ after) : name < entry.1 :=
    (List.pairwise_cons.1 greater).1 entry inside
  refine ⟨before, after, split, ?_, less, more⟩
  have keepsBefore : before.filter (fun entry => entry.1 != name) = before :=
    List.filter_eq_self.2 fun entry inside => bne_iff_ne.2 (String.ne_of_lt (less entry inside))
  have keepsAfter : after.filter (fun entry => entry.1 != name) = after :=
    List.filter_eq_self.2 fun entry inside =>
      bne_iff_ne.2 (String.ne_of_lt (more entry inside)).symm
  change params.entries.filter (fun entry => entry.1 != name) = before ++ after
  rw [split, List.filter_append, keepsBefore, List.filter_cons_of_neg (by simp), keepsAfter]

/-- Renaming a parameter takes it out and puts its value in under the other name. -/
theorem rename_eq {params : Params} {old new value : String}
    (found : params.find? old = some value) :
    params.rename old new = (params.erase old).insert new value := by
  rw [rename, found]

/-- A parameter that is renamed to a new name moves to the place of that name among the others,
which stay as they are. -/
theorem exists_rename {params : Params} {old new value : String}
    (found : params.find? old = some value) (absent : params.find? new = none) :
    ∃ before after early late, params.entries = before ++ (old, value) :: after
      ∧ (params.rename old new).entries = early ++ (new, value) :: late
      ∧ before ++ after = early ++ late := by
  obtain ⟨before, after, split, erased, -, -⟩ := exists_split found
  have missing : (params.erase old).entries.find? new = none := by
    refine find?_erase.trans ?_
    rw [absent, ite_self]
  obtain ⟨early, late, same, added⟩ := Entries.exists_put value missing
  refine ⟨before, after, early, late, split, ?_, erased.symm.trans same⟩
  rw [rename_eq found]
  exact added

/-- A parameter that is renamed to a greater name keeps its place when no other name lies between
the two. -/
theorem exists_rename_in_place {params : Params} {old new value : String} (greater : old < new)
    (found : params.find? old = some value) (absent : params.find? new = none)
    (between : ∀ key, params.hasKey key → ¬ (old < key ∧ key < new)) :
    ∃ before after, params.entries = before ++ (old, value) :: after
      ∧ (params.rename old new).entries = before ++ (new, value) :: after := by
  obtain ⟨before, after, split, erased, less, more⟩ := exists_split found
  refine ⟨before, after, split, ?_⟩
  have above (entry : String × String) (inside : entry ∈ after) : new < entry.1 := by
    have member : entry ∈ params.entries := by
      rw [split]
      exact List.mem_append_right _ (List.mem_cons_of_mem _ inside)
    have there : params.find? entry.1 = some entry.2 :=
      (Entries.find?_eq_some_iff params.ascending).2 member
    have other : entry.1 ≠ new := by
      intro same
      rw [same, absent] at there
      contradiction
    have notBelow : ¬ entry.1 < new := fun below =>
      between entry.1 (by rw [hasKey, there]; rfl) ⟨more entry inside, below⟩
    exact Std.lt_of_le_of_ne (String.not_lt.1 notBelow) other.symm
  have placed := Entries.put_between value
    (fun entry inside => String.lt_trans (less entry inside) greater) above
  rw [rename_eq found]
  change Entries.put new value (params.erase old).entries = _
  rw [erased, placed]

end Params

namespace Filter

/-- The conditions that a filter compiles its parameters to, each with the value that it binds. -/
def compiledConditions (filter : Filter) (schema : Option Schema) : List Condition :=
  filter.conditions schema filter.parameters.value.entries

/-- Renaming a parameter without changing the comparison that it asks for permutes the conditions
and leaves the special parameters as they are. -/
theorem conditions_rename {filter : Filter} (schema : Option Schema) {request : Params}
    {old new value field : String} {operator : Operator}
    (askedOld : filter.role old = some (.field field operator))
    (askedNew : filter.role new = some (.field field operator))
    (found : request.find? old = some value) (absent : request.find? new = none) :
    (filter.conditions schema (request.rename old new).entries).Perm
        (filter.conditions schema request.entries)
      ∧ (request.rename old new).entries.filterMap filter.special?
        = request.entries.filterMap filter.special? := by
  obtain ⟨before, after, early, late, split, moved, same⟩ := Params.exists_rename found absent
  have alike : filter.condition? schema (new, value) = filter.condition? schema (old, value) :=
    condition?_eq_of_role (askedNew.trans askedOld.symm) value
  rw [split, moved, conditions, conditions]
  constructor
  · have front {entry : String × String} {first later : List (String × String)} :
        ((first ++ entry :: later).filterMap (filter.condition? schema)).Perm
          ((entry :: (first ++ later)).filterMap (filter.condition? schema)) :=
      List.perm_middle.filterMap _
    refine front.trans (List.Perm.trans ?_ front.symm)
    rw [List.filterMap_cons, List.filterMap_cons, alike, same]
  · have passed {key : String} (asked : filter.role key = some (.field field operator))
        {first later : List (String × String)} :
        (first ++ (key, value) :: later).filterMap filter.special?
          = (first ++ later).filterMap filter.special? := by
      rw [List.filterMap_append, List.filterMap_cons_none (special?_eq_none asked value),
        List.filterMap_append]
    rw [passed askedNew, passed askedOld, same]

/-- Renaming a parameter in place without changing the comparison that it asks for changes
nothing. -/
theorem conditions_rename_in_place {filter : Filter} {schema : Option Schema} {request : Params}
    {old new value field : String} {operator : Operator}
    (askedOld : filter.role old = some (.field field operator))
    (askedNew : filter.role new = some (.field field operator)) (greater : old < new)
    (found : request.find? old = some value) (absent : request.find? new = none)
    (between : ∀ key, request.hasKey key → ¬ (old < key ∧ key < new)) :
    filter.conditions schema (request.rename old new).entries
      = filter.conditions schema request.entries := by
  obtain ⟨before, after, split, moved⟩ :=
    Params.exists_rename_in_place greater found absent between
  have alike : filter.condition? schema (new, value) = filter.condition? schema (old, value) :=
    condition?_eq_of_role (askedNew.trans askedOld.symm) value
  rw [split, moved, conditions, conditions, List.filterMap_append, List.filterMap_append,
    List.filterMap_cons, List.filterMap_cons, alike]

/-- Renaming a parameter between a field and its test for equality permutes the compiled conditions,
and leaves them as they are when no other parameter lies between the two names. -/
theorem compile_rename (filter : Filter) (schema : Option Schema) (request : Params)
    (field : String) (allowed : field ∈ filter.fields) (apart : ¬ ['_', '_'] <:+: field.toList)
    (closed : field.toList.getLast? ≠ some '_')
    (unreserved : field ∉ filter.settings.reserved ∧ field ++ "__eq" ∉ filter.settings.reserved)
    (ordinary : filter.handlers.hasKey field = false
      ∧ filter.handlers.hasKey (field ++ "__eq") = false)
    (free : field ++ "__eq" ∉ filter.fields) (present : request.hasKey field)
    (absent : request.hasKey (field ++ "__eq") = false) :
    let given := filter.boundTo request
    let renamed := filter.boundTo (request.rename field (field ++ "__eq"))
    (renamed.compiledConditions schema).Perm (given.compiledConditions schema)
      ∧ (∀ scope ∈ [given, renamed],
          (scope.compile schema).value.predicates
              = (scope.compiledConditions schema).map Condition.sql
            ∧ (scope.compile schema).value.values
              = (scope.compiledConditions schema).filterMap Condition.value)
      ∧ (renamed.compile schema).value.pending = (given.compile schema).value.pending
      ∧ ((∀ key, request.hasKey key → ¬ (field < key ∧ key < field ++ "__eq")) →
          (renamed.compile schema).value = (given.compile schema).value) := by
  intro given renamed
  obtain ⟨value, found⟩ := Option.isSome_iff_exists.1 present
  have missing : request.find? (field ++ "__eq") = none := by
    simpa [Params.hasKey] using absent
  have word : field ++ "__" ++ Operator.equal.name = field ++ "__eq" := String.append_assoc
  have askedField := role_field allowed unreserved.1 ordinary.1
  have askedEqual : filter.role (field ++ "__eq") = some (.field field .equal) := by
    rw [← word]
    exact role_spelled .equal allowed apart closed (word ▸ unreserved.2) (word ▸ ordinary.2)
      (word ▸ free)
  have greater : field < field ++ "__eq" := by
    have longer : field.toList ++ [] < field.toList ++ "__eq".toList :=
      List.append_left_lt (List.nil_lt_cons _ _)
    rwa [List.append_nil, ← String.toList_append] at longer
  let special (scope : Filter) := scope.parameters.value.entries.filterMap filter.special?
  obtain ⟨permuted, waiting, kept⟩ :
      (renamed.compiledConditions schema).Perm (given.compiledConditions schema)
        ∧ special renamed = special given
        ∧ ((∀ key, request.hasKey key → ¬ (field < key ∧ key < field ++ "__eq")) →
          renamed.compiledConditions schema = given.compiledConditions schema) := by
    -- A filter with a URI of its own reads neither of the two requests.
    rcases filter.parameters_boundTo with taken | fixed
    · have conditions (request : Params) : (filter.boundTo request).compiledConditions schema
          = filter.conditions schema request.entries := by
        rw [compiledConditions, taken]
        rfl
      have moved := conditions_rename schema askedField askedEqual found missing
      refine ⟨?_, ?_, fun between => ?_⟩
      · rw [conditions, conditions]
        exact moved.1
      · simp only [special, given, renamed, taken]
        exact moved.2
      · rw [conditions, conditions]
        exact conditions_rename_in_place askedField askedEqual greater found missing between
    · have same : renamed.parameters = given.parameters := fixed _ _
      have conditions : renamed.compiledConditions schema = given.compiledConditions schema := by
        rw [compiledConditions, compiledConditions, same]
        rfl
      exact ⟨conditions ▸ List.Perm.refl _, by simp only [special, same], fun _ => conditions⟩
  have compiled (scope : Filter) (bound : scope ∈ [given, renamed]) :
      (scope.compile schema).value =
        { predicates := (scope.compiledConditions schema).map Condition.sql
          values := (scope.compiledConditions schema).filterMap Condition.value
          pending := special scope } := by
    rw [compile_value]
    simp only [List.mem_cons, List.not_mem_nil, or_false] at bound
    rcases bound with rfl | rfl <;> rfl
  have first := compiled given (by simp)
  have second := compiled renamed (by simp)
  refine ⟨permuted, fun scope bound => ?_, ?_, fun between => ?_⟩
  · rw [compiled scope bound]
    exact ⟨rfl, rfl⟩
  · rw [first, second]
    exact waiting
  · rw [first, second, kept between, waiting]

/-- A name with a capital letter lies between a field and its test for equality, so the predicates
change places. -/
theorem compile_rename_past_capital :
    let filter : Filter := { fields := ["age", "ageX"], handlers := [("q", fun _ query => query)] }
    let request : Params := {
      entries := [("age", "3"), ("ageX__isnull", "1"), ("q", "x")]
      ascending := by unfold Entries.Ascending; decide }
    let renamed := filter.boundTo (request.rename "age" "age__eq")
    "age" ∈ filter.fields ∧ request.hasKey "age"
      ∧ request.hasKey "age__eq" = false
      ∧ (renamed.compiledConditions none).Perm ((filter.boundTo request).compiledConditions none)
      ∧ (renamed.compile none).value.predicates = ["\"ageX\" IS NULL", "\"age\" = ?"]
      ∧ ((filter.boundTo request).compile none).value.predicates
        = ["\"age\" = ?", "\"ageX\" IS NULL"] := by
  intro filter request renamed
  have apart : ¬ ['_', '_'] <:+: "age".toList := by decide
  have permuted := compile_rename filter none request "age" (by decide) apart (by decide)
    (by decide) ⟨rfl, rfl⟩ (by decide) rfl rfl
  exact ⟨by decide, rfl, rfl, permuted.1, by decide +kernel, by decide +kernel⟩

end Filter

end Listing
