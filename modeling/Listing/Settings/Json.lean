import Listing.Json.Basic
import Listing.Json.Record
import Listing.Settings

/-!
# Settings in JSON

A JSON document gives settings as a record; what it does not give keeps its default. The sizes are
not checked.
-/
namespace Listing.Settings

/-- The members of settings, in the order of the record. -/
def jsonMembers : List (Json.Member Settings) := [
  ⟨"max_page_size", fun cs => (Json.readWord64 cs).map fun found =>
    (fun settings => { settings with maxPageSize := found.1 }, found.2)⟩,
  ⟨"page_size", fun cs => (Json.readWord64 cs).map fun found =>
    (fun settings => { settings with pageSize := found.1 }, found.2)⟩,
  ⟨"page_param", fun cs => (Json.readString cs).map fun found =>
    (fun settings => { settings with pageParam := found.1 }, found.2)⟩,
  ⟨"page_size_param", fun cs => (Json.readString cs).map fun found =>
    (fun settings => { settings with pageSizeParam := found.1 }, found.2)⟩,
  ⟨"sort_param", fun cs => (Json.readString cs).map fun found =>
    (fun settings => { settings with sortParam := found.1 }, found.2)⟩,
  ⟨"dialect", fun cs => (Json.readNamed Dialect.ofName? cs).map fun found =>
    (fun settings => { settings with dialect := found.1 }, found.2)⟩]

/-- Read settings from a JSON document. -/
def parseJson (text : String) : Option Settings :=
  (Json.readWhole? (Json.readRecord jsonMembers {}) text).map (·.2)

/-- The JSON document of settings. -/
def printJson (settings : Settings) : String :=
  Json.printRecord [
    ("max_page_size", .int settings.maxPageSize.toNat),
    ("page_size", .int settings.pageSize.toNat),
    ("page_param", .text settings.pageParam),
    ("page_size_param", .text settings.pageSizeParam),
    ("sort_param", .text settings.sortParam),
    ("dialect", .text settings.dialect.name)]

end Listing.Settings
