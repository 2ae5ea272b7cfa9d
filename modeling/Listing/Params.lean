import Listing.Entries
import Listing.Text.Ranges
import Listing.Url.Reference

/-!
# Request parameters

The parameters of a request are names with values, in ascending order of the names; of several
values for one name the last counts. They are read from a query string or from the query of a
request URI.
-/
namespace Listing

/-- The parameters of a request. -/
structure Params where
  /-- The names and values. -/
  entries : Entries String := []
  /-- The names ascend, so each stands once. -/
  ascending : entries.Ascending := by exact List.Pairwise.nil

namespace Params

/-- No parameters. -/
def empty : Params := {}

instance : Inhabited Params := ⟨empty⟩

/-- Put a parameter in, in place of any value under its name. -/
def insert (params : Params) (name value : String) : Params :=
  ⟨params.entries.put name value, Entries.put_ascending params.ascending⟩

/-- The parameters that names and values in order leave. -/
def ofList (pairs : List (String × String)) : Params :=
  pairs.foldl (fun params pair => params.insert pair.1 pair.2) empty

/-- The parameters of a form-encoded query; one question mark in front is passed over. -/
def ofQuery (query : String) : Params :=
  let chars := query.toList
  let chars := if chars.head? = some '?' then chars.tail else chars
  ofList (Url.parseForm (chars.flatMap String.utf8EncodeChar))

/-- The parameters of a request URI: a URL, or a path that begins with a slash. -/
def ofUri (uri : String) : Except Cause Params :=
  match Url.queryOf uri.toList with
  | .ok query => .ok (ofList (Url.parseForm query))
  | .error fault => .error (.unreadableUri uri fault)

/-- The value of a parameter. -/
def find? (params : Params) (name : String) : Option String := params.entries.find? name

/-- The integer that a parameter holds, with any white space around it, or a default when there is
none. -/
def intOr (params : Params) (name : String) (default : Int64) : Int64 :=
  match params.find? name with
  | none => default
  | some value =>
    match Text.readInt64 (Text.trim value.toList) with
    | .ok number => number
    | .error _ => default

/-- Whether there is a parameter of a name. -/
def hasKey (params : Params) (name : String) : Bool := (params.find? name).isSome

/-- The names, in ascending order. -/
def keys (params : Params) : List String := params.entries.keys

/-- The number of parameters. -/
def size (params : Params) : Nat := params.entries.length

/-- Whether there are no parameters. -/
def isEmpty (params : Params) : Bool := params.entries.isEmpty

end Params

end Listing
