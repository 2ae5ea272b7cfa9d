import Listing.Dialect
import Listing.Entries
import Listing.Text.Ranges

/-!
# Settings

The sizes of pages, the names of the parameters that choose a page and an order, and the dialect.
Settings are usable when both sizes are positive and the usual size is at most the greatest.
-/
namespace Listing

/-- The settings that all parts of a listing share. -/
structure Settings where
  /-- The greatest size of a page. -/
  maxPageSize : UInt64 := 200
  /-- The size of a page when no positive size is asked for. -/
  pageSize : UInt64 := 20
  /-- The parameter that holds the number of the page. -/
  pageParam : String := "page"
  /-- The parameter that holds the size of the page. -/
  pageSizeParam : String := "page_size"
  /-- The parameter that holds the list of orderings. -/
  sortParam : String := "sort"
  /-- The dialect of the database. -/
  dialect : Dialect := .postgresql
  deriving DecidableEq, Repr

/-- Where variables are read from: each name has a value or is not set. -/
abbrev Variables := String → Option String

/-- Environment variables by name; of several values for one name the last counts. -/
abbrev Environment := Entries String

namespace Settings

/-- The parameters that filters pass over. -/
def reserved (settings : Settings) : List String :=
  [settings.pageParam, settings.pageSizeParam, settings.sortParam]

/-- Check the sizes. -/
def validate (settings : Settings) : Except Cause Unit :=
  if settings.maxPageSize = 0 then .error .zeroMaxPageSize
  else if settings.pageSize = 0 then .error .zeroPageSize
  else if settings.maxPageSize < settings.pageSize then
    .error (.pageSizeExceedsMax settings.pageSize settings.maxPageSize)
  else .ok ()

/-- Settings that pass the check. -/
def validated (settings : Settings) : Except Cause Settings := do
  settings.validate
  return settings

/-- The size that a variable holds, or a default when it is not set. -/
def sizeFrom (valueOf : Variables) (name : String) (default : UInt64) : Except Cause UInt64 :=
  match valueOf name with
  | none => .ok default
  | some value =>
    match Text.readUInt64 (Text.trim value.toList) with
    | .ok size => .ok size
    | .error fault => .error (.invalidSize name value fault)

/-- The dialect that a variable names, or a default when it is not set. -/
def dialectFrom (valueOf : Variables) (name : String) (default : Dialect) :
    Except Cause Dialect :=
  match valueOf name with
  | none => .ok default
  | some spelled => Dialect.parse spelled

/-- Read the settings from variables; what is not set keeps its default. -/
def ofVariables (valueOf : Variables) : Except Cause Settings := do
  let defaults : Settings := {}
  let maxPageSize ← sizeFrom valueOf "SIEVE_MAX_PAGE_SIZE" defaults.maxPageSize
  let pageSize ← sizeFrom valueOf "SIEVE_PAGE_SIZE" defaults.pageSize
  let dialect ← dialectFrom valueOf "SIEVE_DIALECT" defaults.dialect
  validated
    { maxPageSize, pageSize, dialect
      pageParam := (valueOf "SIEVE_PAGE_PARAM").getD defaults.pageParam
      pageSizeParam := (valueOf "SIEVE_PAGE_SIZE_PARAM").getD defaults.pageSizeParam
      sortParam := (valueOf "SIEVE_SORT_PARAM").getD defaults.sortParam }

/-- Read the settings from an environment. -/
def ofEnvironment (environment : Environment) : Except Cause Settings :=
  ofVariables environment.find?

end Settings

end Listing
