import Listing.Error
import Listing.Settings

/-!
# Events and diagnostics

What happens while a request is worked on is recorded as events beside the results. An event has
a level, a message and named details. One kind of event is meant for debugging only and is kept
out of sight unless debugging is asked for. Whether it is, and the level and the format of the log,
are read from environment variables in any letter case; unknown words count as not set.
-/
namespace Listing

/-- The levels of events that are recorded. -/
inductive EventLevel where
  /-- A detail of the work. -/
  | debug
  /-- Something was given up or passed over. -/
  | warn
  deriving DecidableEq, Repr

/-- The name of a level. -/
def EventLevel.name : EventLevel → String
  | debug => "DEBUG"
  | warn => "WARN"

/-- Something that happened. -/
inductive Event where
  /-- A field has no kind in a schema. -/
  | fieldUnknown (schema field : String)
  /-- The URI that a filter takes its parameters from cannot be read. -/
  | uriUnreadable (uri : String) (cause : Cause)
  /-- A filter has no parameters bound. -/
  | requestUnbound
  /-- The text of a parameter does not fit its field. -/
  | valueUnreadable (key : String) (cause : Cause)
  /-- A filter has been compiled. -/
  | filterCompiled (sql : String) (values special : Nat)
  /-- The handler of a special parameter runs. -/
  | handlerRuns (key : String)
  /-- The orderings of a request have been found. -/
  | orderingsResolved (count : Nat)
  /-- A page is cut out of a result. -/
  | pageApplied (page size lastPage : UInt64)
  /-- The parameters of a request have been read. -/
  | parametersExtracted (path : String) (count : Nat)
  /-- A request is answered with an error of the server. -/
  | serverFailed (code message : String)
  deriving DecidableEq, Repr

namespace Event

/-- The level of an event. -/
def level : Event → EventLevel
  | fieldUnknown .. | uriUnreadable .. | valueUnreadable .. | serverFailed .. => .warn
  | requestUnbound | filterCompiled .. | handlerRuns .. | orderingsResolved .. | pageApplied ..
  | parametersExtracted .. => .debug

/-- The message of an event. -/
def message : Event → String
  | fieldUnknown .. => "field not found on record shape"
  | uriUnreadable .. => "FilterScope: failed to parse query params"
  | requestUnbound => "FilterScope: no request parameters bound"
  | valueUnreadable .. => "FilterScope: failed to convert value"
  | filterCompiled .. => "FilterScope compiled"
  | handlerRuns .. => "dispatching special filter"
  | orderingsResolved .. => "SortScope resolved orderings"
  | pageApplied .. => "applying page scope"
  | parametersExtracted .. => "ListQuery extracted"
  | serverFailed .. => "scope error"

/-- The details of an event. -/
def details : Event → List (String × String)
  | fieldUnknown schema field => [("model", schema), ("field", field)]
  | uriUnreadable uri cause => [("uri", uri), ("error", cause.toError.display)]
  | requestUnbound => []
  | valueUnreadable key cause => [("key", key), ("error", cause.toError.display)]
  | filterCompiled sql values special =>
    [("sql", sql), ("values", toString values), ("special", toString special)]
  | handlerRuns key => [("key", key)]
  | orderingsResolved count => [("count", toString count)]
  | pageApplied page size lastPage =>
    [("page", toString page.toNat), ("page_size", toString size.toNat),
      ("max_page", toString lastPage.toNat)]
  | parametersExtracted path count => [("path", path), ("params", toString count)]
  | serverFailed code message => [("code", code), ("error", message)]

/-- Whether an event is kept out of sight unless debugging is asked for. -/
def forDebugging : Event → Bool
  | filterCompiled .. => true
  | _ => false

/-- The events that are seen. -/
def seen (debugging : Bool) (events : List Event) : List Event :=
  events.filter fun event => debugging || !event.forDebugging

end Event

/-- A result with the events on the way to it, in order. -/
structure Journal (α : Type) where
  /-- The result. -/
  value : α
  /-- The events. -/
  events : List Event := []

namespace Journal

/-- A result without events. -/
protected def pure {α : Type} (value : α) : Journal α := ⟨value, []⟩

/-- Go on from a result; the later events follow the earlier. -/
protected def bind {α β : Type} (journal : Journal α) (next : α → Journal β) : Journal β :=
  let later := next journal.value
  ⟨later.value, journal.events ++ later.events⟩

instance : Monad Journal where
  pure := Journal.pure
  bind := Journal.bind

/-- An event alone. -/
def note (event : Event) : Journal Unit := ⟨(), [event]⟩

variable {α β : Type}

@[simp] theorem value_pure (value : α) : (pure value : Journal α).value = value := rfl

@[simp] theorem value_bind (journal : Journal α) (next : α → Journal β) :
    (journal >>= next).value = (next journal.value).value := rfl

@[simp] theorem events_bind (journal : Journal α) (next : α → Journal β) :
    (journal >>= next).events = journal.events ++ (next journal.value).events := rfl

/-- How steps are grouped makes no difference to their result and their events. -/
instance : LawfulMonad Journal := LawfulMonad.mk' _
  (fun journal => by
    change Journal.mk _ (_ ++ []) = journal
    rw [List.append_nil]
    rfl)
  (fun _ _ => rfl)
  (fun journal first second => by
    change Journal.mk _ (_ ++ _ ++ _) = Journal.mk _ (_ ++ (_ ++ _))
    rw [List.append_assoc]
    rfl)

end Journal

/-! ## The environment -/

namespace Diagnostics

/-- The word that a variable holds, in lower case. -/
def wordIn (environment : Environment) (name : String) : Option String :=
  (environment.find? name).map Text.lowercase

/-- The word that a variable holds when it is one of those known. -/
def knownWord (environment : Environment) (name : String) (known : List String) :
    Option String :=
  (wordIn environment name).filter known.contains

/-- Whether debugging is asked for. -/
def debugging (environment : Environment) : Bool :=
  (knownWord environment "SIEVE_DEBUG" ["true", "1", "yes"]).isSome

/-- The least level that is logged. -/
def level (environment : Environment) : String :=
  (knownWord environment "SIEVE_LOG_LEVEL" ["trace", "debug", "info", "warn", "error"]).getD
    (if debugging environment then "debug" else "warn")

/-- The format of the log. -/
def format (environment : Environment) : String :=
  (knownWord environment "SIEVE_LOG_FORMAT" ["pretty", "compact"]).getD "json"

end Diagnostics

end Listing
