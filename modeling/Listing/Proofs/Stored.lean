import Listing.Fragment
import Listing.Proofs.JsonDocuments

/-!
# Values stored as JSON

The JSON form of a value does not say what kind of value it came from. Null, truth values, integers
and texts have forms that no other kind claims, so they are read back as they were. A list has the
form of a JSON document, and a document is what it is read back as: a stored list loses its items,
and one placeholder takes the place of theirs. Main statement: `parse_print_of_storable`, for every
value without floating-point numbers and documents; `parse_ne_list` says that no text at all is read
as a list.
-/
namespace Listing.Value

/-- A value that is built from null, truth values, integers and texts by making lists. -/
inductive Storable : Value → Prop where
  /-- The null of SQL. -/
  | null : Storable .null
  /-- A truth value. -/
  | bool (value : Bool) : Storable (.bool value)
  /-- An integer. -/
  | int (value : Int64) : Storable (.int value)
  /-- A text. -/
  | text (value : String) : Storable (.text value)
  /-- A list of such values. -/
  | list {items : List Value} (each : ∀ item ∈ items, Storable item) : Storable (.list items)

/-- The JSON forms of values are taken one by one. -/
theorem toJsonItems_eq_map (items : List Value) : toJsonItems items = items.map toJson := by
  induction items with
  | nil => rfl
  | cons item rest ih => rw [toJsonItems, ih, List.map_cons]

/-- The JSON form of a storable value has neither floating-point numbers nor objects. -/
theorem Storable.toJson_plain {value : Value} (storable : value.Storable) :
    value.toJson.Plain := by
  induction storable with
  | null => exact .null
  | bool value => exact .bool value
  | int value =>
    have greatest : value.toInt < 2 ^ 63 := value.toInt_lt
    exact .int value.minValue_le_toInt (by simp only [UInt64.size]; omega)
  | text value => exact .text value
  | @list items each ih =>
    rw [toJson, toJsonItems_eq_map]
    refine .array fun json member => ?_
    obtain ⟨item, inside, rfl⟩ := List.mem_map.1 member
    exact ih item inside

/-- A storable value that is no list has a JSON form that is read as the value. -/
theorem Storable.ofJson_toJson {value : Value} (storable : value.Storable)
    (single : ∀ items, value ≠ .list items) : ofJson value.toJson = value := by
  cases storable with
  | null => rfl
  | bool value => rfl
  | int value =>
    have range : Int64.minValue.toInt ≤ value.toInt ∧ value.toInt ≤ Int64.maxValue.toInt :=
      ⟨value.minValue_le_toInt, value.toInt_le⟩
    rw [toJson, ofJson, if_pos range, Int64.ofInt_toInt]
  | text value => rfl
  | @list items each => exact absurd rfl (single items)

/-- The JSON form of a list is read as a document. -/
theorem ofJson_toJson_list (items : List Value) :
    ofJson (Value.list items).toJson = .json (Value.list items).toJson := by
  rw [toJson, ofJson]

/-- No text is read as a list. -/
theorem parse_ne_list (document : String) (items : List Value) :
    parse document ≠ some (.list items) := by
  intro same
  obtain ⟨json, -, found⟩ := Option.map_eq_some_iff.1 same
  cases json with
  | int value =>
    rw [ofJson] at found
    split at found <;> contradiction
  | null | bool | float | text | array | object => contradiction

/-- A document takes one placeholder. -/
theorem placeholders_json (dialect : Dialect) (bound : Nat) (document : Json) :
    Fragment.placeholders dialect bound (.json document) = dialect.placeholder (bound + 1) := by
  rfl

/-- A value is read back from its JSON text if it is no list; a list, unless it nests too deep,
comes back as a JSON document, which is bound to a single placeholder. -/
theorem parse_print_of_storable {value : Value} (storable : value.Storable) :
    ((∀ items, value ≠ .list items) → parse value.print = some value) ∧
    ∀ items, value = .list items →
      (parse value.print
        = if value.toJson.levels ≤ Json.greatestDepth then some (.json value.toJson) else none) ∧
      ∀ found, parse value.print = some found →
        found ≠ value ∧ found.expansion = [found] ∧
        ∀ dialect bound,
          Fragment.placeholders dialect bound found = dialect.placeholder (bound + 1) := by
  have read : parse value.print
      = if value.toJson.levels ≤ Json.greatestDepth then some (ofJson value.toJson) else none := by
    rw [parse, print, storable.toJson_plain.parse_print, apply_ite (Option.map ofJson)]
    rfl
  constructor
  · intro single
    have flat : value.toJson.levels = 0 := by
      cases storable with
      | null | bool | int | text => rfl
      | @list items each => exact absurd rfl (single items)
    rw [read, flat, if_pos (Nat.zero_le _), storable.ofJson_toJson single]
  · rintro items rfl
    rw [ofJson_toJson_list] at read
    refine ⟨read, fun found same => ?_⟩
    rw [read] at same
    split at same
    · obtain rfl := Option.some.inj same
      exact ⟨nofun, rfl, fun dialect bound => placeholders_json dialect bound _⟩
    · contradiction

/-- A text is read back; a list that holds another list is read as a document. -/
theorem parse_print_of_storable_nested :
    Storable (.list [.int 1, .list [.null]]) ∧
    parse (print (.text "x")) = some (.text "x") ∧
    parse (print (.list [.int 1, .list [.null]]))
      = some (.json (.array [.int 1, .array [.null]])) := by
  have listed : Storable (.list [.int 1, .list [.null]]) := by
    refine .list (List.forall_mem_cons.2 ⟨.int 1, List.forall_mem_singleton.2 (.list ?_)⟩)
    exact List.forall_mem_singleton.2 .null
  have single := (parse_print_of_storable (.text "x")).1 nofun
  have document := ((parse_print_of_storable listed).2 _ rfl).1
  rw [if_pos (by decide)] at document
  exact ⟨listed, single, document⟩

/-- A list of an integer and a text is not read back from its text `[1,"x"]`: what fills two
placeholders before fills one after. -/
theorem parse_print_ne_two_items :
    print (.list [.int 1, .text "x"]) = "[1,\"x\"]" ∧
    parse "[1,\"x\"]" = some (.json (.array [.int 1, .text "x"])) ∧
    parse (print (.list [.int 1, .text "x"])) ≠ some (.list [.int 1, .text "x"]) ∧
    (Fragment.bind .postgresql "tag IN (?)" [.list [.int 1, .text "x"]] []).result
      = .ok "tag IN ($1, $2)" ∧
    (Fragment.bind .postgresql "tag IN (?)" [.json (.array [.int 1, .text "x"])] []).result
      = .ok "tag IN ($1)" := by
  have listed : Storable (.list [.int 1, .text "x"]) := by
    refine .list (List.forall_mem_cons.2 ⟨.int 1, List.forall_mem_singleton.2 (.text "x")⟩)
  have printed : print (.list [.int 1, .text "x"]) = "[1,\"x\"]" := rfl
  have document : parse "[1,\"x\"]" = some (.json (.array [.int 1, .text "x"])) := by
    rw [← printed, parse, print, listed.toJson_plain.parse_print, if_pos (by decide)]
    rfl
  exact ⟨printed, document, parse_ne_list _ _, rfl, rfl⟩

end Listing.Value
