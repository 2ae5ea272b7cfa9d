import Listing.Params
import Mathlib.Data.List.Basic
import Mathlib.Data.List.Forall2
import Mathlib.Data.List.Induction
import Mathlib.Data.List.Sort

/-!
# Entries by what is found in them

In ascending entries a value is found under a key exactly when the entry is there. So ascending
entries are determined by what is found in them, and their keys by which keys are found. Main
statements: `eq_of_find?_eq`, `filter_eq_of_find?_eq` for the entries that a condition on the keys
selects, and `keys_eq_of_isSome_eq`. A new entry is put in between the entries with lesser keys and
those with greater keys, as `put_between` and `exists_put` say. Of several values for one name or
key the last is found, in parameters as in a registry: `Params.find?_ofList` and
`Registry.find?_ofList`. The keys of a registry are in the order of their first registrations, each
once: `keys_ofList` and `nodup_keys_ofList`.
-/
namespace Listing

/-! ## Ascending entries -/

namespace Entries

open Keyed (find? find?_cons)

variable {α : Type}

/-- The keys of ascending entries ascend. -/
theorem Ascending.keys_ascend {entries : Entries α} (ascending : entries.Ascending) :
    entries.keys.Pairwise (· < ·) := List.pairwise_map.2 ascending

/-- No key stands twice in ascending entries. -/
theorem Ascending.nodup_keys {entries : Entries α} (ascending : entries.Ascending) :
    entries.keys.Nodup := ascending.keys_ascend.imp fun before => String.ne_of_lt before

/-- In ascending entries a value is found under a key exactly when the entry is there. -/
theorem find?_eq_some_iff {entries : Entries α} (ascending : entries.Ascending) {key : String}
    {value : α} : entries.find? key = some value ↔ (key, value) ∈ entries :=
  Keyed.find?_eq_some_iff ascending.nodup_keys

/-- Ascending entries in which the same is found under every key are equal. -/
theorem eq_of_find?_eq {first second : Entries α} (firstAscending : first.Ascending)
    (secondAscending : second.Ascending)
    (same : ∀ key, first.find? key = second.find? key) : first = second := by
  refine List.Pairwise.eq_of_mem_iff firstAscending secondAscending fun entry => ?_
  rw [← find?_eq_some_iff firstAscending, same, find?_eq_some_iff secondAscending]

/-- What is found in the entries whose keys satisfy a condition. -/
theorem find?_filter {entries : Entries α} {keep : String → Bool} {key : String} :
    find? (entries.filter fun entry => keep entry.1) key
      = if keep key then entries.find? key else none := by
  induction entries with
  | nil => simp [find?]
  | cons entry rest ih =>
    rw [List.filter_cons, find?_cons]
    by_cases same : key = entry.1
    · by_cases kept : keep entry.1
      · rw [if_pos kept, find?_cons, if_pos same, if_pos same, same, if_pos kept]
      · rw [if_neg kept, ih, same, if_neg kept, if_neg kept]
    · rw [if_neg same, ← ih]
      by_cases kept : keep entry.1
      · rw [if_pos kept, find?_cons, if_neg same]
      · rw [if_neg kept]

/-- Ascending entries in which a condition selects the same keys with the same values agree on what
it selects. -/
theorem filter_eq_of_find?_eq {first second : Entries α} {keep : String → Bool}
    (firstAscending : first.Ascending) (secondAscending : second.Ascending)
    (same : ∀ key, keep key → first.find? key = second.find? key) :
    (first.filter fun entry => keep entry.1) = second.filter fun entry => keep entry.1 := by
  refine eq_of_find?_eq (firstAscending.filter _) (secondAscending.filter _) fun key => ?_
  rw [find?_filter, find?_filter]
  split
  · rename_i kept
    exact same key kept
  · rfl

/-- Ascending entries in which the same keys are found have the same keys in order. -/
theorem keys_eq_of_isSome_eq {first second : Entries α} (firstAscending : first.Ascending)
    (secondAscending : second.Ascending)
    (same : ∀ key, (first.find? key).isSome = (second.find? key).isSome) :
    first.keys = second.keys := by
  refine List.Pairwise.eq_of_mem_iff firstAscending.keys_ascend secondAscending.keys_ascend
    fun key => ?_
  rw [Keyed.mem_keys_iff, Keyed.mem_keys_iff, same]

/-- Ascending entries with the same keys go through the same keys together, and what stands in them
is found in them. -/
theorem forall₂_of_keys_eq {first second : Entries α} (firstAscending : first.Ascending)
    (secondAscending : second.Ascending) (same : first.keys = second.keys) :
    List.Forall₂ (fun left right => left.1 = right.1 ∧ first.find? left.1 = some left.2
      ∧ second.find? right.1 = some right.2) first second := by
  have together : List.Forall₂ (fun left right => left.1 = right.1) first second := by
    rw [← List.forall₂_map_right_iff, ← List.forall₂_map_left_iff, List.forall₂_eq_eq_eq]
    exact same
  rw [List.forall₂_iff_zip] at together ⊢
  refine ⟨together.1, fun {left right} member => ⟨together.2 member, ?_, ?_⟩⟩
  · exact (find?_eq_some_iff firstAscending).2 (List.of_mem_zip member).1
  · exact (find?_eq_some_iff secondAscending).2 (List.of_mem_zip member).2

/-- An entry is put in between the entries with lesser keys and those with greater keys. -/
theorem put_between {key : String} (value : α) {before after : Entries α}
    (lesser : ∀ entry ∈ before, entry.1 < key) (greater : ∀ entry ∈ after, key < entry.1) :
    put key value (before ++ after) = before ++ (key, value) :: after := by
  induction before with
  | nil =>
    cases after with
    | nil => rfl
    | cons entry rest =>
      rw [List.nil_append, put, if_pos (greater entry List.mem_cons_self)]
      rfl
  | cons entry rest ih =>
    have less := lesser entry List.mem_cons_self
    have later := ih fun entry member => lesser entry (List.mem_cons_of_mem _ member)
    rw [List.cons_append, put, if_neg (String.lt_asymm less), if_pos less, later]
    rfl

/-- A put under a new key splits the entries and changes none of them. -/
theorem exists_put {key : String} (value : α) {entries : Entries α}
    (absent : entries.find? key = none) :
    ∃ before after, entries = before ++ after
      ∧ put key value entries = before ++ (key, value) :: after := by
  induction entries with
  | nil => exact ⟨[], [], rfl, rfl⟩
  | cons entry rest ih =>
    rw [find?_cons] at absent
    rw [put]
    by_cases less : key < entry.1
    · exact ⟨[], entry :: rest, rfl, if_pos less⟩
    · rw [if_neg less]
      by_cases greater : entry.1 < key
      · rw [if_neg (String.ne_of_lt greater).symm] at absent
        obtain ⟨before, after, split, added⟩ := ih absent
        refine ⟨entry :: before, after, ?_, ?_⟩
        · rw [split, List.cons_append]
        · rw [if_pos greater, added, List.cons_append]
      · have same : key = entry.1 :=
          String.le_antisymm (String.not_lt.1 greater) (String.not_lt.1 less)
        simp [same] at absent

end Entries

namespace Params

/-- Parameters in which the same is found under every name are the same. -/
theorem eq_of_find?_eq {first second : Params}
    (same : ∀ key, first.find? key = second.find? key) : first = second := by
  have entries := Entries.eq_of_find?_eq first.ascending second.ascending same
  obtain ⟨_, _⟩ := first
  obtain ⟨_, _⟩ := second
  obtain rfl := entries
  rfl

/-- After a parameter is put in it is found under its name, and under the other names what was found
before. -/
theorem find?_insert {params : Params} {name value key : String} :
    (params.insert name value).find? key = if key = name then some value else params.find? key :=
  Entries.find?_put

/-- Of several values under one name the last counts. -/
theorem find?_ofList (pairs : List (String × String)) (key : String) :
    (ofList pairs).find? key = pairs.reverse.lookup key :=
  (Keyed.find?_foldl (fun _ _ _ => find?_insert) pairs empty key).trans Option.or_none

end Params

/-! ## Registrations -/

namespace Registry

open Keyed (find? keys)

variable {α : Type}

/-- One more registration after others. -/
theorem ofList_concat (pairs : List (String × α)) (pair : String × α) :
    ofList (pairs ++ [pair]) = register pair.1 pair.2 (ofList pairs) := List.foldl_concat ..

/-- Under a key the value of its last registration is found. -/
theorem find?_ofList (pairs : List (String × α)) (key : String) :
    (ofList pairs).find? key = pairs.reverse.lookup key :=
  (Keyed.find?_foldl (fun _ _ _ => find?_register) pairs [] key).trans Option.or_none

/-- The keys of registrations are their distinct keys, in the order of the first of each. -/
theorem keys_ofList (pairs : List (String × α)) :
    (ofList pairs).keys = (pairs.map (·.1)).eraseDups := by
  induction pairs using List.reverseRecOn with
  | nil => rfl
  | append_singleton pairs pair ih =>
    rw [ofList_concat, keys_register, ih, List.map_append, List.eraseDups_append]
    by_cases old : pair.1 ∈ pairs.map (·.1)
    · have none : [pair.1].removeAll (pairs.map (·.1)) = [] := by
        simpa [List.removeAll] using old
      rw [if_pos (List.mem_eraseDups.2 old), List.map_singleton, none]
      exact (List.append_nil _).symm
    · have one : [pair.1].removeAll (pairs.map (·.1)) = [pair.1] := by
        simpa [List.removeAll] using old
      rw [if_neg (fun member => old (List.mem_eraseDups.1 member)), List.map_singleton, one]
      rfl

/-- No key stands twice among those of registrations. -/
theorem nodup_keys_ofList (pairs : List (String × α)) : (ofList pairs).keys.Nodup := by
  induction pairs using List.reverseRecOn with
  | nil => exact List.nodup_nil
  | append_singleton pairs pair ih =>
    rw [ofList_concat, keys_register]
    split
    · exact ih
    · rename_i fresh
      refine List.nodup_append.2 ⟨ih, List.pairwise_singleton _ _, fun key old last member => ?_⟩
      rw [List.mem_singleton.1 member]
      rintro rfl
      exact fresh old

/-- A registration adds an entry unless something is found under its key. -/
theorem length_register {key : String} {value : α} {registry : Registry α} :
    (register key value registry).length
      = if (registry.find? key).isSome then registry.length else registry.length + 1 := by
  have counted (entries : Registry α) : entries.keys.length = entries.length :=
    List.length_map _
  rw [← counted, keys_register, ← counted]
  by_cases known : key ∈ registry.keys
  · rw [if_pos known, if_pos (Keyed.mem_keys_iff.1 known)]
  · rw [if_neg known, if_neg (fun found => known (Keyed.mem_keys_iff.2 found)), List.length_append]
    rfl

/-- A key is registered when it stands among the keys. -/
theorem hasKey_iff {registry : Registry α} {key : String} :
    registry.hasKey key ↔ key ∈ registry.keys := by
  simp [hasKey, keys]

end Registry

end Listing
