/-!
# Keys with their values

A list of entries holds at most one entry for each key, and an entry that is put in replaces the one
that has its key. Entries are kept in ascending order of their keys by code point, or, in a registry,
in the order in which their keys were first registered. Main statements: an entry that is put in or
registered changes what is found under its own key and under no other; the keys stay ascending, or
get a new one at the end.
-/
namespace Listing

/-- Keys with their values. -/
abbrev Keyed (α : Type) := List (String × α)

namespace Keyed

variable {α : Type}

/-- The value under a key. -/
def find? (entries : Keyed α) (key : String) : Option α := entries.lookup key

/-- The keys, in the order of the entries. -/
def keys (entries : Keyed α) : List String := entries.map (·.1)

/-- What is found is what stands under the key first. -/
theorem find?_cons {entry : String × α} {rest : Keyed α} {key : String} :
    find? (entry :: rest) key = if key = entry.1 then some entry.2 else find? rest key := by
  obtain ⟨first, held⟩ := entry
  unfold find?
  rw [List.lookup_cons]
  by_cases same : key = first
  · rw [if_pos same, beq_iff_eq.2 same]
  · rw [if_neg same, beq_eq_false_iff_ne.2 same]

/-- When no key stands twice, a value is found under a key exactly when the entry is there. -/
theorem find?_eq_some_iff {entries : Keyed α} (distinct : entries.keys.Nodup) {key : String}
    {value : α} : entries.find? key = some value ↔ (key, value) ∈ entries := by
  induction entries with
  | nil => simp [find?]
  | cons entry rest ih =>
    obtain ⟨first, held⟩ := entry
    rw [keys, List.map_cons, List.nodup_cons] at distinct
    rw [find?_cons, List.mem_cons, ← ih distinct.2]
    by_cases same : key = first
    · subst key
      have absent : find? rest first ≠ some value := fun found =>
        distinct.1 (List.mem_map.2 ⟨(first, value), (ih distinct.2).1 found, rfl⟩)
      simp [absent, eq_comm]
    · simp [same]

/-- The keys are those under which something is found. -/
theorem mem_keys_iff {entries : Keyed α} {key : String} :
    key ∈ entries.keys ↔ (entries.find? key).isSome := by
  simp only [keys, find?, List.lookup_isSome_iff, List.mem_map, beq_iff_eq]
  exact exists_congr fun entry => and_congr_right fun _ => eq_comm

/-- Of writes in order the last one under a key counts, if there is one. -/
theorem find?_foldl {σ : Type} {look : σ → String → Option α} {write : σ → String × α → σ}
    (law : ∀ state pair key,
      look (write state pair) key = if key = pair.1 then some pair.2 else look state key)
    (pairs : List (String × α)) (state : σ) (key : String) :
    look (pairs.foldl write state) key = (find? pairs.reverse key).or (look state key) := by
  induction pairs generalizing state with
  | nil => rfl
  | cons pair rest ih =>
    have appended : find? (rest.reverse ++ [pair]) key
        = (find? rest.reverse key).or (find? [pair] key) := List.lookup_append
    rw [List.foldl_cons, ih, law, List.reverse_cons, appended, Option.or_assoc, find?_cons]
    split <;> rfl

end Keyed

/-! ## Ascending entries -/

/-- Keys with their values, in ascending order of the keys. -/
abbrev Entries (α : Type) := Keyed α

namespace Entries

open Keyed (find? find?_cons)

variable {α : Type}

/-- The keys ascend strictly, so no key stands twice. -/
def Ascending (entries : Entries α) : Prop :=
  entries.Pairwise fun earlier later => earlier.1 < later.1

/-- Put a value in under a key, in place of any value there. -/
def put (key : String) (value : α) : Entries α → Entries α
  | [] => [(key, value)]
  | entry :: rest =>
    if key < entry.1 then (key, value) :: entry :: rest
    else if entry.1 < key then entry :: put key value rest
    else (key, value) :: rest

/-- The entries that a list of keys and values leaves when they are put in in order. -/
def ofList (pairs : List (String × α)) : Entries α :=
  pairs.foldl (fun entries pair => put pair.1 pair.2 entries) []

/-- Every key after a put is the key put in or was there before. -/
theorem key_of_mem_put {key : String} {value : α} {entries : Entries α} {entry : String × α}
    (member : entry ∈ put key value entries) : entry = (key, value) ∨ entry ∈ entries := by
  induction entries with
  | nil => simp only [put, List.mem_singleton] at member; exact .inl member
  | cons first rest ih =>
    simp only [put] at member
    split at member
    · simpa using member
    · split at member
      · cases List.mem_cons.1 member with
        | inl same => exact .inr (by simp [same])
        | inr later => exact (ih later).imp_right (List.mem_cons_of_mem _)
      · cases List.mem_cons.1 member with
        | inl same => exact .inl same
        | inr later => exact .inr (List.mem_cons_of_mem _ later)

/-- Putting an entry in keeps the keys ascending. -/
theorem put_ascending {key : String} {value : α} {entries : Entries α}
    (ascending : entries.Ascending) : (put key value entries).Ascending := by
  induction entries with
  | nil => simp [put, Ascending]
  | cons first rest ih =>
    have ⟨firstLeast, restAscending⟩ := List.pairwise_cons.1 ascending
    simp only [put]
    split
    · rename_i before
      refine List.pairwise_cons.2 ⟨fun entry member => ?_, ascending⟩
      cases List.mem_cons.1 member with
      | inl same => exact same ▸ before
      | inr later => exact String.lt_trans before (firstLeast entry later)
    · split
      · rename_i after
        refine List.pairwise_cons.2 ⟨fun entry member => ?_, ih restAscending⟩
        cases key_of_mem_put member with
        | inl same => exact same ▸ after
        | inr later => exact firstLeast entry later
      · rename_i notBefore notAfter
        have same : key = first.1 :=
          String.le_antisymm (String.not_lt.1 notAfter) (String.not_lt.1 notBefore)
        exact List.pairwise_cons.2 ⟨fun entry member => same ▸ firstLeast entry member,
          restAscending⟩

/-- After a put the value is found under its key, and under the other keys what was found before. -/
theorem find?_put {key name : String} {value : α} {entries : Entries α} :
    (put key value entries).find? name = if name = key then some value else entries.find? name := by
  induction entries with
  | nil => rw [put, find?_cons]
  | cons entry rest ih =>
    rw [put]
    split
    · rw [find?_cons]
    · split
      · rename_i after
        rw [find?_cons, find?_cons, ih]
        by_cases same : name = entry.1
        · have other : name ≠ key := same ▸ String.ne_of_lt after
          rw [if_pos same, if_neg other, if_pos same]
        · rw [if_neg same, if_neg same]
      · rename_i notBefore notAfter
        have same : key = entry.1 :=
          String.le_antisymm (String.not_lt.1 notAfter) (String.not_lt.1 notBefore)
        rw [find?_cons, find?_cons, ← same]
        split <;> rfl

end Entries

/-! ## Registrations -/

/-- Keys with their values, in the order in which the keys were first registered. -/
abbrev Registry (α : Type) := Keyed α

namespace Registry

open Keyed (find? find?_cons keys)

variable {α : Type}

/-- Register a value under a key. -/
def register (key : String) (value : α) : Registry α → Registry α
  | [] => [(key, value)]
  | entry :: rest =>
    if entry.1 = key then (key, value) :: rest else entry :: register key value rest

/-- The registry that registrations in order make. -/
def ofList (pairs : List (String × α)) : Registry α :=
  pairs.foldl (fun registry pair => register pair.1 pair.2 registry) []

/-- Whether a key is registered. -/
def hasKey (registry : Registry α) (key : String) : Bool := registry.any fun entry => entry.1 == key

/-- After a registration the value is found under its key, and under the other keys what was found
before. -/
theorem find?_register {key name : String} {value : α} {registry : Registry α} :
    (register key value registry).find? name
      = if name = key then some value else registry.find? name := by
  induction registry with
  | nil => rw [register, find?_cons]
  | cons entry rest ih =>
    rw [register]
    split
    · rename_i same
      rw [find?_cons, find?_cons, same]
      split <;> rfl
    · rename_i other
      rw [find?_cons, find?_cons, ih]
      by_cases same : name = entry.1
      · have apart : name ≠ key := fun equal => other (same.symm.trans equal)
        rw [if_pos same, if_neg apart, if_pos same]
      · rw [if_neg same, if_neg same]

/-- A registration keeps the keys and their order; a new key comes last. -/
theorem keys_register {key : String} {value : α} {registry : Registry α} :
    (register key value registry).keys
      = if key ∈ registry.keys then registry.keys else registry.keys ++ [key] := by
  induction registry with
  | nil => simp [register, keys]
  | cons entry rest ih =>
    simp only [keys] at ih
    simp only [register, keys]
    split
    · rename_i same; simp [same]
    · rename_i other
      have differs : key ≠ entry.1 := fun same => other same.symm
      simp only [List.map_cons, ih, List.mem_cons, differs, false_or]
      split <;> simp_all

end Registry

end Listing
