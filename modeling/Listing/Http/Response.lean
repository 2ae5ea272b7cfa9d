import Listing.Diagnostics
import Listing.Envelope

/-!
# Responses

Pages and failures are answered with JSON. A failure is the server's when the configuration is to
blame and the client's otherwise; the server's failures leave an event.
-/
namespace Listing.Http

/-- A response with a JSON body. -/
structure Response where
  /-- The status code. -/
  status : Nat
  /-- The body. -/
  body : String
  /-- The type of the body. -/
  contentType : String := "application/json"
  deriving DecidableEq, Repr

/-- The response with a page in its envelope. -/
def respond (page : Page) (results : Json) : Response :=
  { status := 200, body := (page.envelope results).print }

/-- The response with a page in a body of one's own. -/
def respondWith {α : Type} (page : Page) (rows : α) (build : Cursor → UInt64 → α → Json) :
    Response :=
  { status := 200, body := (page.bodyWith rows build).print }

/-- Why a request fails. -/
inductive Failure where
  /-- A query cannot be made. -/
  | query (error : Error)
  /-- A fault in the configuration of the server, in words. -/
  | configuration (problem : String)
  deriving DecidableEq, Repr

namespace Failure

/-- The code of a failure. -/
def code : Failure → ErrorCode
  | query error => error.code
  | configuration _ => .invalidConfiguration

/-- The message of a failure. -/
def message : Failure → String
  | query error => error.display
  | configuration problem => "configuration error: " ++ problem

/-- Whether the configuration is to blame. -/
def isServerFailure : Failure → Bool
  | query error => error.isConfigurationError
  | configuration _ => true

/-- The status code of a failure. -/
def status (failure : Failure) : Nat := if failure.isServerFailure then 500 else 400

/-- The response that tells of a failure. -/
def response (failure : Failure) : Journal Response := do
  if failure.isServerFailure then
    Journal.note (.serverFailed failure.code.name failure.message)
  let body := Json.printRecord
    [("code", .text failure.code.name), ("error", .text failure.message)]
  return { status := failure.status, body }

end Failure

end Listing.Http
