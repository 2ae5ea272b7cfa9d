import Listing.Json.Reader

/-!
# Records in JSON

A record has named members in a fixed order. A document gives it as an object, in which the
members may stand in any order but none of them twice and members of other names are passed over,
or as a list of the members' values in their order, which may end early.
-/
namespace Listing.Json

open Text (Reader readWord)

/-- A member of a record under construction. -/
structure Member (σ : Type) where
  /-- The name of the member in an object. -/
  name : String
  /-- Read the value of the member and say what it does to the record. -/
  read : Reader (σ → σ)

/-- A record under construction: the names of the members read, the latest first, and the record. -/
abbrev Draft (σ : Type) := List String × σ

/-- Read the members of an object up to its closing brace, one member at least. The number bounds
the members. -/
def readMembers {σ : Type} (members : List (Member σ)) : Nat → Draft σ → Reader (Draft σ)
  | 0, _, _ => none
  | bound + 1, (names, record), cs => do
    let (name, rest) ← readText (skipSpace cs)
    match skipSpace rest with
    | ':' :: rest =>
      let (draft, rest) ← match members.find? (·.name == name) with
        | none => (skipValue rest).map fun found => ((names, record), found.2)
        | some member =>
          if names.contains name then none
          else (member.read rest).map fun found => ((name :: names, found.1 record), found.2)
      match skipSpace rest with
      | '\x7d' :: more => some (draft, more)
      | ',' :: more => readMembers members bound draft more
      | _ => none
    | _ => none

/-- Read the values of members after an opening bracket or a comma, in order. -/
def readSequence {σ : Type} : List (Member σ) → Draft σ → Reader (Draft σ)
  | [], _, _ => none
  | member :: later, (names, record), cs => do
    let (change, rest) ← member.read cs
    let draft := (member.name :: names, change record)
    match skipSpace rest with
    | ']' :: more => some (draft, more)
    | ',' :: more => readSequence later draft more
    | _ => none

/-- Read a record in either form. -/
def readRecord {σ : Type} (members : List (Member σ)) (record : σ) : Reader (Draft σ) := fun cs =>
  match skipSpace cs with
  | '\x7b' :: rest =>
    match skipSpace rest with
    | '\x7d' :: more => some (([], record), more)
    | other => readMembers members (other.length + 1) ([], record) other
  | '[' :: rest =>
    match skipSpace rest with
    | ']' :: more => some (([], record), more)
    | other => readSequence members ([], record) other
  | _ => none

/-- Read an unsigned 64-bit integer. -/
def readWord64 : Reader UInt64 := fun cs => do
  match ← readScalar cs with
  | (int value, rest) =>
    if 0 ≤ value then some (UInt64.ofNat value.toNat, rest) else none
  | _ => none

/-- Read a value or `null`. -/
def readOptional {α : Type} (value : Reader α) : Reader (Option α) := fun cs =>
  match skipSpace cs with
  | 'n' :: rest => (readWord ['u', 'l', 'l'] rest).map fun found => (none, found.2)
  | other => (value other).map fun found => (some found.1, found.2)

/-- Read a text. -/
def readString : Reader String := fun cs => readText (skipSpace cs)

/-- Read one of several named values: its name, or an object whose only member has the name and
the value `null`. -/
def readNamed {α : Type} (named : String → Option α) : Reader α := fun cs =>
  match skipSpace cs with
  | '\x7b' :: rest => do
    let (name, rest) ← readString rest
    let value ← named name
    match skipSpace rest with
    | ':' :: rest =>
      match skipSpace rest with
      | 'n' :: rest =>
        let (_, rest) ← readWord ['u', 'l', 'l'] rest
        match skipSpace rest with
        | '\x7d' :: more => some (value, more)
        | _ => none
      | _ => none
    | _ => none
  | other => do
    let (name, rest) ← readText other
    let value ← named name
    some (value, rest)

end Listing.Json
