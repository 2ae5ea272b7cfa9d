import Listing.Filter
import Listing.Page
import Listing.Sorting
import Listing.Text.Split

/-!
# Requests

The target of a request is a path with an optional query, an absolute reference with a scheme and
an authority in front of them, an authority alone, or the asterisk. A fragment is not part of it.
A request that asks for a part of a listing carries its parameters in the query of its target. A
request with the settings of the server makes filters, orderings and pages that are bound to both.
-/
namespace Listing.Http

/-- The path and the query of a request. -/
structure Target where
  /-- The path. -/
  path : String
  /-- The query, when there is a question mark. -/
  query : Option String := none
  deriving DecidableEq, Repr

namespace Target

/-- The characters before a fragment. -/
def withoutFragment (cs : List Char) : List Char := cs.takeWhile (· != '#')

/-- The target of a path and a query; the empty path is the root. -/
def ofPath (cs : List Char) : Target :=
  let (path, query) :=
    match Text.cut '?' (withoutFragment cs) with
    | none => (withoutFragment cs, none)
    | some (path, query) => (path, some (String.ofList query))
  { path := if path.isEmpty then "/" else String.ofList path, query }

/-- Whether a character may stand in a scheme. Targets are taken as they come, so the tilde and any
first character are let through. -/
def isSchemeChar (c : Char) : Bool :=
  c.isAlphanum || c == '+' || c == '-' || c == '.' || c == '~'

/-- What follows a scheme, a colon and two slashes at the front, when they stand there. -/
def afterScheme (cs : List Char) : Option (List Char) :=
  match cs.dropWhile isSchemeChar with
  | ':' :: '/' :: '/' :: rest => some rest
  | _ => none

/-- Whether a character ends an authority. -/
def endsAuthority (c : Char) : Bool := c == '/' || c == '?' || c == '#'

/-- The target that a request line names. -/
def parse (text : String) : Target :=
  match text.toList with
  | '/' :: rest => ofPath ('/' :: rest)
  | ['*'] => { path := "*" }
  | cs =>
    match afterScheme cs with
    | some rest => ofPath (rest.dropWhile fun c => !endsAuthority c)
    | none => { path := "" }

end Target

/-- The parameters of a request; without a query there are none. -/
def parametersOf (target : Target) : Journal Params := do
  let params := Params.ofQuery (target.query.getD "")
  Journal.note (.parametersExtracted target.path params.size)
  return params

/-- The parameters of a request with the settings of the server. -/
structure Request where
  /-- The parameters of the request. -/
  params : Params
  /-- The settings of the server. -/
  settings : Settings

namespace Request

/-- The request that a target names. -/
def ofTarget (settings : Settings) (target : Target) : Journal Request := do
  return { params := ← parametersOf target, settings }

/-- A filter for the request. -/
def filter (request : Request) (fields : List String) : Filter :=
  { fields, params := some request.params, settings := request.settings }

/-- An order for the request. -/
def sorting (request : Request) (fields : List String) (defaults : List String) : Sorting :=
  { fields, defaults, params := some request.params, settings := request.settings }

/-- A page of a result for the request. -/
def page (request : Request) (total : UInt64) : Page :=
  { total, params := request.params, settings := request.settings }

end Request

end Listing.Http
