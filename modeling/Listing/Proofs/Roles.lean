import Listing.Operator
import Mathlib.Data.List.Infix

/-!
# Names that spell a field and an operator

A name is cut where two underscores stand together for the first time. So it spells a field and an
operator only if no two underscores stand together in the field and none stands at its end: with one
there the cut comes too early, and the operator is lost. Main statements: `cutDoubled_eq_some_iff`
says where a text is cut, `ofKey_grammar` which names ask for what, and `ofKey_spelled` that every
operator can be asked for on every allowed field without two underscores together, unless the field
ends with an underscore.
-/
namespace Listing

namespace Text

variable {α : Type} {separator : α}

/-- Two separators begin a text exactly when its first two items are separators. -/
theorem doubled_prefix_iff {item : α} {rest : List α} :
    [separator, separator] <+: item :: rest ↔ item = separator ∧ rest.head? = some separator := by
  rw [List.cons_prefix_cons, eq_comm]
  refine and_congr_right fun _ => ?_
  cases rest with
  | nil => simp
  | cons second more => simp [List.cons_prefix_cons, eq_comm]

/-- Two separators after a text are the first two that stand together exactly when no two stand
together inside the text and none stands at its end. -/
theorem first_doubled_iff {before after : List α} :
    (∀ early late, before ++ separator :: separator :: after
        = early ++ separator :: separator :: late → before.length ≤ early.length)
      ↔ ¬[separator, separator] <:+: before ∧ before.getLast? ≠ some separator := by
  constructor
  · intro first
    constructor
    · rintro ⟨early, late, rfl⟩
      have bound := first early (late ++ separator :: separator :: after) (by simp)
      simp only [List.length_append, List.length_cons, List.length_nil] at bound
      omega
    · intro last
      obtain ⟨early, rfl⟩ := List.getLast?_eq_some_iff.1 last
      have bound := first early (separator :: after) (by simp)
      simp only [List.length_append, List.length_cons, List.length_nil] at bound
      omega
  · rintro ⟨apart, closed⟩ early late same
    obtain ⟨middle, rfl, -⟩ | ⟨middle, rfl, rest⟩ := List.append_eq_append_iff.1 same
    · simp
    · -- what is left of the text after the earlier part begins with the two separators
      match middle with
      | [] => simp
      | [item] =>
        obtain rfl := (List.cons.inj rest).1
        simp at closed
      | item :: second :: more =>
        obtain ⟨rfl, others⟩ := List.cons.inj rest
        obtain rfl := (List.cons.inj others).1
        exact absurd ⟨early, more, by simp⟩ apart

variable [DecidableEq α]

/-- A text that is cut where a separator stands twice is its two parts with the two separators
between them. -/
theorem eq_of_cutDoubled {items before after : List α}
    (found : cutDoubled separator items = some (before, after)) :
    items = before ++ separator :: separator :: after := by
  induction items generalizing before with
  | nil => contradiction
  | cons item rest ih =>
    rw [cutDoubled] at found
    split at found
    · rename_i doubled
      obtain ⟨rfl, next⟩ := doubled
      simp only [Option.some.injEq, Prod.mk.injEq] at found
      obtain ⟨rfl, rfl⟩ := found
      cases rest with
      | nil => contradiction
      | cons second more =>
        obtain rfl := Option.some.inj next
        rfl
    · obtain ⟨⟨early, late⟩, earlier, same⟩ := Option.map_eq_some_iff.1 found
      simp only [Prod.mk.injEq] at same
      obtain ⟨rfl, rfl⟩ := same
      rw [List.cons_append, ← ih earlier]

/-- In front of the place where a text is cut no two separators stand together, and none stands
last. -/
theorem apart_of_cutDoubled {items before after : List α}
    (found : cutDoubled separator items = some (before, after)) :
    ¬[separator, separator] <:+: before ∧ before.getLast? ≠ some separator := by
  induction items generalizing before with
  | nil => contradiction
  | cons item rest ih =>
    rw [cutDoubled] at found
    split at found
    · obtain rfl := congrArg Prod.fst (Option.some.inj found)
      simp
    · rename_i single
      obtain ⟨⟨early, late⟩, earlier, same⟩ := Option.map_eq_some_iff.1 found
      obtain ⟨rfl, rfl⟩ := Prod.mk.inj same
      obtain ⟨apart, closed⟩ := ih earlier
      obtain rfl := eq_of_cutDoubled earlier
      rw [List.infix_cons_iff, doubled_prefix_iff]
      cases early with
      | nil =>
        refine ⟨by simp, fun last => single ⟨?_, rfl⟩⟩
        simpa using last
      | cons second more =>
        rw [List.getLast?_cons_cons]
        exact ⟨not_or.2 ⟨single, apart⟩, closed⟩

/-- A text in which no two separators stand together, and none at the end, is cut off by the first
two separators after it. -/
theorem cutDoubled_append {before : List α} (after : List α)
    (apart : ¬ [separator, separator] <:+: before) (closed : before.getLast? ≠ some separator) :
    cutDoubled separator (before ++ separator :: separator :: after) = some (before, after) := by
  induction before with
  | nil => exact if_pos ⟨rfl, rfl⟩
  | cons item rest ih =>
    have single : ¬ (item = separator
        ∧ (rest ++ separator :: separator :: after).head? = some separator) := by
      rintro ⟨rfl, next⟩
      cases rest with
      | nil => exact closed rfl
      | cons second more =>
        obtain rfl : second = item := by simpa using next
        exact apart ⟨[], more, rfl⟩
    have later : cutDoubled separator (rest ++ separator :: separator :: after)
        = some (rest, after) := by
      refine ih (fun inside => apart (inside.trans (List.suffix_cons item rest).isInfix)) ?_
      cases rest with
      | nil => simp
      | cons second more => simpa [List.getLast?_cons] using closed
    rw [List.cons_append, cutDoubled, if_neg single, later]
    rfl

/-- A text is cut at the first two separators that stand together. -/
theorem cutDoubled_eq_some_iff {items before after : List α} :
    cutDoubled separator items = some (before, after)
      ↔ items = before ++ separator :: separator :: after
        ∧ ¬[separator, separator] <:+: before ∧ before.getLast? ≠ some separator := by
  constructor
  · intro found
    exact ⟨eq_of_cutDoubled found, apart_of_cutDoubled found⟩
  · rintro ⟨rfl, apart, closed⟩
    exact cutDoubled_append after apart closed

/-- A text is left whole exactly when no two separators stand together in it. -/
theorem cutDoubled_eq_none_iff {items : List α} :
    cutDoubled separator items = none ↔ ¬[separator, separator] <:+: items := by
  induction items with
  | nil => simp [cutDoubled]
  | cons item rest ih =>
    rw [cutDoubled, List.infix_cons_iff, doubled_prefix_iff]
    split
    · rename_i doubled
      simp [doubled]
    · rename_i single
      rw [Option.map_eq_none_iff, ih, not_or]
      exact ⟨fun later => ⟨single, later⟩, And.right⟩

end Text

namespace Operator

/-- The catalogue holds every operator. -/
theorem mem_all (operator : Operator) : operator ∈ all := by
  cases operator <;> decide

/-- An operator is found by its own name. -/
theorem ofName?_name (operator : Operator) : ofName? operator.name = some operator := by
  cases operator <;> rfl

/-- The operator that is found by a text has it for its name. -/
theorem name_of_ofName? {text : String} {operator : Operator}
    (found : ofName? text = some operator) : operator.name = text := by
  simpa using List.find?_some found

/-- No two operators have the same name. -/
theorem name_injective {first second : Operator} (same : first.name = second.name) :
    first = second := by
  have found := ofName?_name first
  rw [same, ofName?_name] at found
  exact (Option.some.inj found).symm

/-- The name of an operator has no two underscores together. -/
theorem cutDoubled_name (operator : Operator) :
    Text.cutDoubled '_' operator.name.toList = none := by
  cases operator <;> rfl

/-- The name of an operator does not begin with an underscore. -/
theorem head?_name (operator : Operator) : operator.name.toList.head? ≠ some '_' := by
  cases operator <;> decide

end Operator

namespace Role

/-- A name spells a field and an operator when it is the field, two underscores and the name of the
operator, and the two underscores are the first that stand together. -/
structure Spells (key field : String) (operator : Operator) : Prop where
  /-- The name is the field, two underscores and the name of the operator. -/
  spelled : key = field ++ "__" ++ operator.name
  /-- No two underscores stand together in the field. -/
  apart : ¬['_', '_'] <:+: field.toList
  /-- The field does not end with an underscore. -/
  closed : field.toList.getLast? ≠ some '_'

/-- The characters of a field, two underscores and what follows them. -/
theorem toList_spelled (field rest : String) :
    (field ++ "__" ++ rest).toList = field.toList ++ '_' :: '_' :: rest.toList := by
  simp

/-- A name that spells a field and an operator is cut between the two. -/
theorem Spells.cut {key field : String} {operator : Operator} (spells : Spells key field operator) :
    Text.cutDoubled '_' key.toList = some (field.toList, operator.name.toList) := by
  rw [spells.spelled, toList_spelled]
  exact Text.cutDoubled_append _ spells.apart spells.closed

/-- A name spells at most one field and one operator. -/
theorem Spells.unique {key first second : String} {one other : Operator}
    (spells : Spells key first one) (also : Spells key second other) :
    first = second ∧ one = other := by
  have same := spells.cut.symm.trans also.cut
  obtain ⟨fields, names⟩ := Prod.mk.inj (Option.some.inj same)
  exact ⟨String.toList_injective fields,
    Operator.name_injective (String.toList_injective names)⟩

/-- The two underscores in a name that spells a field and an operator are the first that stand
together: the field is the shortest part of the name in front of two underscores. -/
theorem spells_iff_shortest {key field : String} {operator : Operator} :
    Spells key field operator ↔ key = field ++ "__" ++ operator.name
      ∧ ∀ early late, key = early ++ "__" ++ late → field.length ≤ early.length := by
  have first := @Text.first_doubled_iff Char '_' field.toList operator.name.toList
  constructor
  · intro spells
    refine ⟨spells.spelled, fun early late same => ?_⟩
    rw [← String.length_toList, ← String.length_toList]
    refine first.2 ⟨spells.apart, spells.closed⟩ early.toList late.toList ?_
    rw [← toList_spelled, ← toList_spelled, ← spells.spelled, same]
  · rintro ⟨spelled, shortest⟩
    obtain ⟨apart, closed⟩ := first.1 fun early late same => by
      have split : key = String.ofList early ++ "__" ++ String.ofList late := by
        apply String.toList_injective
        rw [spelled, toList_spelled, same]
        simp
      have bound := shortest _ _ split
      rwa [← String.length_toList, String.length_ofList] at bound
    exact ⟨spelled, apart, closed⟩

/-- A name spells no field and operator when two underscores stand together behind two others. -/
theorem not_spells_of_doubled {before after field : String} {operator : Operator}
    (again : ['_', '_'] <:+: after.toList) : ¬Spells (before ++ "__" ++ after) field operator := by
  intro spells
  have longer : after.toList.length ≤ operator.name.toList.length := by
    have shortest := (spells_iff_shortest.1 spells).2 before after rfl
    have lengths := congrArg String.length spells.spelled
    simp only [String.length_append] at lengths
    simp only [String.length_toList]
    omega
  have whole : after.toList <:+ (before ++ "__" ++ after).toList := by
    rw [String.toList_append]
    exact List.suffix_append _ _
  have named : operator.name.toList <:+ (before ++ "__" ++ after).toList := by
    rw [spells.spelled, String.toList_append]
    exact List.suffix_append _ _
  -- so what stands behind the two underscores is an end of the name of the operator
  have ending := List.suffix_of_suffix_length_le whole named longer
  exact Text.cutDoubled_eq_none_iff.1 operator.cutDoubled_name (again.trans ending.isInfix)

/-- A field that ends with an underscore spells nothing with two underscores behind it, because the
first two that stand together begin with its last. -/
theorem not_spells_of_closed {field rest other : String} {operator : Operator}
    (apart : ¬['_', '_'] <:+: field.toList) (closed : field.toList.getLast? = some '_') :
    ¬Spells (field ++ "__" ++ rest) other operator := by
  intro spells
  obtain ⟨early, last⟩ := List.getLast?_eq_some_iff.1 closed
  rw [last] at apart
  have single : early.getLast? ≠ some '_' := by
    intro ends
    obtain ⟨front, rfl⟩ := List.getLast?_eq_some_iff.1 ends
    exact apart ⟨front, [], by simp⟩
  have cut : Text.cutDoubled '_' (field ++ "__" ++ rest).toList
      = some (early, '_' :: rest.toList) := by
    have split : (field ++ "__" ++ rest).toList = early ++ '_' :: '_' :: '_' :: rest.toList := by
      rw [toList_spelled, last]
      simp
    rw [split]
    exact Text.cutDoubled_append _ (fun inside => apart (inside.trans
      (List.prefix_append early ['_']).isInfix)) single
  have names := congrArg Prod.snd (Option.some.inj (spells.cut.symm.trans cut))
  exact operator.head?_name (congrArg List.head? names)

/-- A name with two underscores together asks for an operator on an allowed field exactly when it
spells the two. -/
theorem ofSplit_eq_some_iff {fields : List String} {key : String} {role : Role} :
    ofSplit fields key = some role
      ↔ ∃ field ∈ fields, ∃ operator, role = .field field operator ∧ Spells key field operator := by
  constructor
  · intro found
    rw [ofSplit] at found
    split at found
    · contradiction
    rename_i before after cut
    simp only at found
    split at found
    · contradiction
    rename_i allowed
    simp only [Bool.or_eq_true, Bool.not_eq_true', not_or, Bool.not_eq_false] at allowed
    obtain ⟨operator, named, same⟩ := Option.map_eq_some_iff.1 found
    obtain ⟨split, apart, closed⟩ := Text.cutDoubled_eq_some_iff.1 cut
    refine ⟨_, List.contains_iff_mem.1 allowed.2, operator, same.symm, ?_, ?_, ?_⟩
    · apply String.toList_injective
      rw [toList_spelled, Operator.name_of_ofName? named]
      simpa using split
    · simpa using apart
    · simpa using closed
  · rintro ⟨field, allowed, operator, rfl, spells⟩
    simp only [ofSplit, spells.cut, Operator.cutDoubled_name, String.ofList_toList,
      Operator.ofName?_name, List.contains_iff_mem.2 allowed]
    rfl

/-- A special name asks for its handler. -/
theorem ofKey_of_special {fields : List String} {isSpecial : String → Bool} {key : String}
    (special : isSpecial key) : ofKey fields isSpecial key = some (.special key) := by
  rw [ofKey, if_pos special]

/-- The name of an allowed field asks for equality. -/
theorem ofKey_of_mem {fields : List String} {isSpecial : String → Bool} {key : String}
    (ordinary : isSpecial key = false) (allowed : key ∈ fields) :
    ofKey fields isSpecial key = some (.field key .equal) := by
  rw [ofKey, if_neg (by simp [ordinary]), if_pos (List.contains_iff_mem.2 allowed)]

/-- Every other name asks for what it spells. -/
theorem ofKey_of_not_mem {fields : List String} {isSpecial : String → Bool} {key : String}
    (ordinary : isSpecial key = false) (free : key ∉ fields) :
    ofKey fields isSpecial key = ofSplit fields key := by
  rw [ofKey, if_neg (by simp [ordinary]),
    if_neg (fun listed => free (List.contains_iff_mem.1 listed))]

/-- Only a special name asks for a handler, and then for its own. -/
theorem ofKey_eq_special_iff {fields : List String} {isSpecial : String → Bool}
    {key name : String} :
    ofKey fields isSpecial key = some (.special name) ↔ isSpecial key ∧ name = key := by
  cases special : isSpecial key with
  | true => simp [ofKey_of_special special, eq_comm]
  | false =>
    by_cases allowed : key ∈ fields
    · simp [ofKey_of_mem special allowed]
    · simp [ofKey_of_not_mem special allowed, ofSplit_eq_some_iff]

/-- A name that is not special asks for equality on the field of that name, and if there is none for
the operator that it spells. -/
theorem ofKey_eq_field_iff {fields : List String} {isSpecial : String → Bool}
    {key field : String} {operator : Operator} :
    ofKey fields isSpecial key = some (.field field operator)
      ↔ isSpecial key = false
        ∧ ((key ∈ fields ∧ field = key ∧ operator = .equal)
          ∨ (key ∉ fields ∧ field ∈ fields ∧ operator ∈ Operator.all
            ∧ Spells key field operator)) := by
  cases special : isSpecial key with
  | true => simp [ofKey_of_special special]
  | false =>
    by_cases allowed : key ∈ fields
    · simp [ofKey_of_mem special allowed, allowed, eq_comm]
    · simp [ofKey_of_not_mem special allowed, ofSplit_eq_some_iff, allowed, Operator.mem_all]

/-- A name asks for nothing when it is not special, no field has it, and it spells no operator on an
allowed field. -/
theorem ofKey_eq_none_iff {fields : List String} {isSpecial : String → Bool} {key : String} :
    ofKey fields isSpecial key = none
      ↔ isSpecial key = false ∧ key ∉ fields
        ∧ ∀ field ∈ fields, ∀ operator ∈ Operator.all, ¬Spells key field operator := by
  cases special : isSpecial key with
  | true => simp [ofKey_of_special special]
  | false =>
    by_cases allowed : key ∈ fields
    · simp [ofKey_of_mem special allowed, allowed]
    · rw [ofKey_of_not_mem special allowed, Option.eq_none_iff_forall_ne_some]
      simp only [ne_eq, ofSplit_eq_some_iff]
      constructor
      · intro silent
        exact ⟨trivial, allowed, fun field listed operator _ spells =>
          silent (.field field operator) ⟨field, listed, operator, rfl, spells⟩⟩
      · rintro ⟨-, -, unspelled⟩ _ ⟨field, listed, operator, -, spells⟩
        exact unspelled field listed operator (Operator.mem_all operator) spells

/-- A name asks for its handler when it is special, else for equality when it is an allowed field,
else for an operator on an allowed field when it spells the two, and else for nothing. -/
theorem ofKey_grammar (fields : List String) (isSpecial : String → Bool) (key : String) :
    (∀ name, ofKey fields isSpecial key = some (.special name) ↔ isSpecial key ∧ name = key)
      ∧ (∀ field operator, ofKey fields isSpecial key = some (.field field operator)
          ↔ isSpecial key = false
            ∧ ((key ∈ fields ∧ field = key ∧ operator = .equal)
              ∨ (key ∉ fields ∧ field ∈ fields ∧ operator ∈ Operator.all
                ∧ Spells key field operator)))
      ∧ (ofKey fields isSpecial key = none
          ↔ isSpecial key = false ∧ key ∉ fields
            ∧ ∀ field ∈ fields, ∀ operator ∈ Operator.all, ¬Spells key field operator)
      ∧ (∀ field operator, Spells key field operator ↔ key = field ++ "__" ++ operator.name
          ∧ ∀ early late, key = early ++ "__" ++ late → field.length ≤ early.length)
      ∧ (∀ first second one other, Spells key first one → Spells key second other →
          first = second ∧ one = other)
      ∧ (∀ field operator, ofKey fields isSpecial key = some (.field field operator) →
          field ∈ fields)
      ∧ ∀ before after, key = before ++ "__" ++ after → ['_', '_'] <:+: after.toList →
          isSpecial key = false → key ∉ fields → ofKey fields isSpecial key = none := by
  refine ⟨fun name => ofKey_eq_special_iff, fun field operator => ofKey_eq_field_iff,
    ofKey_eq_none_iff, fun field operator => spells_iff_shortest,
    fun first second one other spells also => spells.unique also,
    fun field operator asked => ?_, fun before after same again ordinary free => ?_⟩
  · obtain ⟨-, ⟨allowed, rfl, -⟩ | ⟨-, allowed, -, -⟩⟩ := ofKey_eq_field_iff.1 asked
    · exact allowed
    · exact allowed
  · refine ofKey_eq_none_iff.2 ⟨ordinary, free, fun field _ operator _ => ?_⟩
    rw [same]
    exact not_spells_of_doubled again

/-- The name of a field with two underscores asks for that field, and two underscores more spell
nothing. -/
theorem ofKey_grammar_near_misses :
    let role := ofKey ["a", "a__eq"] fun key => key == "a__lt"
    role "a__lt" = some (.special "a__lt") ∧ role "a__not_in" = some (.field "a" .isNotIn)
      ∧ role "a__eq" = some (.field "a__eq" .equal) ∧ role "a__eq__eq" = none
      ∧ role "a____eq" = none := by
  have grammar (key : String) := ofKey_grammar ["a", "a__eq"] (fun key => key == "a__lt") key
  obtain ⟨special, -⟩ := grammar "a__lt"
  obtain ⟨-, spelled, -⟩ := grammar "a__not_in"
  obtain ⟨-, allowed, -⟩ := grammar "a__eq"
  obtain ⟨-, -, -, -, -, -, twice⟩ := grammar "a__eq__eq"
  obtain ⟨-, -, -, -, -, -, doubled⟩ := grammar "a____eq"
  have spells : Spells "a__not_in" "a" .isNotIn := ⟨by decide, by decide, by decide⟩
  refine ⟨(special _).2 ⟨by decide, rfl⟩, (spelled _ _).2 ⟨by decide, .inr ?_⟩,
    (allowed _ _).2 ⟨by decide, .inl ⟨by decide, rfl, rfl⟩⟩, ?_, ?_⟩
  · exact ⟨by decide, by decide, by decide, spells⟩
  · exact twice "a" "eq__eq" (by decide) (by decide) (by decide) (by decide)
  · exact doubled "a" "__eq" (by decide) (by decide) (by decide) (by decide)

/-- The name of an allowed field, two underscores and an operator ask for the operator on the field,
unless the field ends with an underscore: then they ask for nothing. -/
theorem ofKey_spelled (fields : List String) (isSpecial : String → Bool) (field : String)
    (operator : Operator) (allowed : field ∈ fields) (apart : ¬['_', '_'] <:+: field.toList)
    (ordinary : isSpecial (field ++ "__" ++ operator.name) = false)
    (free : field ++ "__" ++ operator.name ∉ fields) :
    ofKey fields isSpecial (field ++ "__" ++ operator.name)
      = if field.toList.getLast? = some '_' then none else some (.field field operator) := by
  by_cases closed : field.toList.getLast? = some '_'
  · rw [if_pos closed]
    exact ofKey_eq_none_iff.2 ⟨ordinary, free, fun other _ operator _ =>
      not_spells_of_closed apart closed⟩
  · rw [if_neg closed]
    have spells : Spells _ field operator := ⟨rfl, apart, closed⟩
    exact ofKey_eq_field_iff.2 ⟨ordinary, .inr ⟨free, allowed, operator.mem_all, spells⟩⟩

/-- Of two allowed fields, one with an underscore at its end and one without, only the second can be
asked for by an operator. -/
theorem ofKey_spelled_neighbours :
    "a_" ∈ ["a", "a_"] ∧ ¬['_', '_'] <:+: "a_".toList
      ∧ ofKey ["a", "a_"] (fun _ => false) "a___not_in" = none
      ∧ ofKey ["a", "a_"] (fun _ => false) "a__not_in" = some (.field "a" .isNotIn) := by
  have closed := ofKey_spelled ["a", "a_"] (fun _ => false) "a_" .isNotIn (by decide) (by decide)
    rfl (by decide)
  have plain := ofKey_spelled ["a", "a_"] (fun _ => false) "a" .isNotIn (by decide) (by decide)
    rfl (by decide)
  rw [if_pos (by decide)] at closed
  rw [if_neg (by decide)] at plain
  exact ⟨by decide, by decide, closed, plain⟩

/-- Not every operator can be asked for on every allowed field without two underscores together: no
name asks for equality on the field `a_` by its operator. -/
theorem ofKey_ne_trailing_underscore :
    "a_" ∈ ["a_"] ∧ ¬['_', '_'] <:+: "a_".toList ∧ "a_" ++ "__" ++ Operator.equal.name = "a___eq"
      ∧ "a___eq" ∉ ["a_"] ∧ ofKey ["a_"] (fun _ => false) "a___eq" = none
      ∧ ofKey ["a_"] (fun _ => false) "a___eq" ≠ some (.field "a_" .equal) := by
  have silent : ofKey ["a_"] (fun _ => false) "a___eq" = none := by decide +kernel
  exact ⟨by decide, by decide, by decide, by decide, silent, by rw [silent]; nofun⟩

end Role

end Listing
