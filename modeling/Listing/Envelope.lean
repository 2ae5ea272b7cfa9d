import Listing.Json.Record
import Listing.Page

/-!
# Envelopes

An envelope carries the rows of a page together with the total and the numbers of the pages. In
JSON the numbers of the neighbouring pages stand last and are left out where there is no neighbour.
-/
namespace Listing

/-- The rows of a page with what a client needs to go on. -/
structure Envelope where
  /-- The number of rows of the whole result. -/
  total : UInt64
  /-- The rows of the page. -/
  results : Json
  /-- The number of the page. -/
  page : UInt64
  /-- The number of the page after. -/
  next : Option UInt64 := none
  /-- The number of the page before. -/
  previous : Option UInt64 := none

/-- The envelope of a page. -/
def Page.envelope (page : Page) (results : Json) : Envelope :=
  page.bodyWith results fun cursor total results =>
    { total, results, page := cursor.current, next := cursor.next, previous := cursor.previous }

namespace Envelope

/-- The JSON text of an envelope. -/
def print (envelope : Envelope) : String :=
  let number (value : UInt64) : Json := .int value.toNat
  let neighbour (name : String) (value : Option UInt64) : List (String × Json) :=
    (value.map fun value => (name, number value)).toList
  Json.printRecord
    ([("total", number envelope.total), ("results", envelope.results),
      ("page", number envelope.page)]
      ++ neighbour "next" envelope.next ++ neighbour "prev" envelope.previous)

/-- The members of an envelope. The rows stand one level down in the document. -/
def members : List (Json.Member Envelope) := [
  ⟨"total", fun cs => (Json.readWord64 cs).map fun found =>
    (fun envelope => { envelope with total := found.1 }, found.2)⟩,
  ⟨"results", fun cs => (Json.readValue (Json.greatestDepth - 1) cs).map fun found =>
    (fun envelope => { envelope with results := found.1 }, found.2)⟩,
  ⟨"page", fun cs => (Json.readWord64 cs).map fun found =>
    (fun envelope => { envelope with page := found.1 }, found.2)⟩,
  ⟨"next", fun cs => (Json.readOptional Json.readWord64 cs).map fun found =>
    (fun envelope => { envelope with next := found.1 }, found.2)⟩,
  ⟨"prev", fun cs => (Json.readOptional Json.readWord64 cs).map fun found =>
    (fun envelope => { envelope with previous := found.1 }, found.2)⟩]

/-- Read an envelope from a JSON document; the total, the rows and the page must be there. -/
def parse (text : String) : Option Envelope := do
  let (names, envelope) ←
    Json.readWhole? (Json.readRecord members { total := 0, results := .null, page := 0 }) text
  if names.contains "total" && names.contains "results" && names.contains "page" then some envelope
  else none

end Envelope

end Listing
