import Listing.Proofs.Contributions
import Listing.Proofs.Entries
import Listing.Proofs.Numerals

/-!
# Which handlers run

A filter compiles the parameters that no handler is registered for, puts what they ask for into the
query as one condition, and runs the handlers of the others. Main statements: `dispatch_eq` says
that handlers run one after the other on what the one before left, `lookup_pending` which texts wait
for a handler, `conditions_without` that parameters with a handler compile to nothing, and
`apply_runs` puts together what a filter does to a query of any kind.
-/
namespace Listing

namespace Params

/-- The parameters whose names are not among given ones. -/
def without (params : Params) (names : List String) : Params where
  entries := params.entries.filter fun entry => !names.contains entry.1
  ascending := params.ascending.filter _

end Params

/-! ## Handlers in sequence -/

/-- A run of a handler. -/
structure HandlerRun (Q : Type) where
  /-- The key that the handler is registered under. -/
  key : String
  /-- The handler. -/
  handler : Handler Q
  /-- The text that the handler receives. -/
  text : String

namespace Handlers

variable {Q : Type}

/-- The runs of the handlers whose keys have texts waiting for them. -/
def runs (handlers : Handlers Q) (pending : List (String × String)) : List (HandlerRun Q) :=
  handlers.filterMap fun entry =>
    (pending.lookup entry.1).map fun text => ⟨entry.1, entry.2, text⟩

/-- Handlers run one after the other, each on what the one before left, and each run leaves an
event. -/
theorem dispatch_eq (handlers : Handlers Q) (pending : List (String × String)) (query : Q) :
    handlers.dispatch pending query =
      { value := (handlers.runs pending).foldl (fun query run => run.handler run.text query) query
        events := (handlers.runs pending).map fun run => .handlerRuns run.key } := by
  induction handlers generalizing query with
  | nil => rfl
  | cons entry rest ih =>
    obtain ⟨key, handler⟩ := entry
    rw [dispatch, runs, List.filterMap_cons]
    cases waiting : pending.lookup key with
    | none => exact ih query
    | some text =>
      dsimp only [Option.map_some]
      rw [ih]
      rfl

/-- The keys of the handlers that run are those with a text waiting, in the order of the
handlers. -/
theorem keys_runs (handlers : Handlers Q) (pending : List (String × String)) :
    (handlers.runs pending).map (·.key)
      = (Keyed.keys handlers).filter fun key => (pending.lookup key).isSome := by
  induction handlers with
  | nil => rfl
  | cons entry rest ih =>
    rw [runs, Keyed.keys] at ih ⊢
    rw [List.filterMap_cons, List.map_cons, List.filter_cons]
    cases waiting : pending.lookup entry.1 with
    | none => exact ih
    | some text => exact congrArg (entry.1 :: ·) ih

/-- A handler that runs is registered under its key and receives the text that waits there. -/
theorem mem_runs {handlers : Handlers Q} {pending : List (String × String)} {run : HandlerRun Q}
    (member : run ∈ handlers.runs pending) :
    (run.key, run.handler) ∈ handlers ∧ pending.lookup run.key = some run.text := by
  obtain ⟨entry, inside, found⟩ := List.mem_filterMap.1 member
  obtain ⟨text, waiting, rfl⟩ := Option.map_eq_some_iff.1 found
  exact ⟨inside, waiting⟩

end Handlers

namespace Filter

variable {Q : Type}

/-- The name of a parameter with a handler asks for the handler, unless it is reserved. -/
theorem role_of_hasKey {filter : Filter Q} {key : String} (special : filter.handlers.hasKey key) :
    filter.role key
      = if filter.settings.reserved.contains key then none else some (.special key) := by
  rw [role, Role.ofKey_of_special special]

/-- A parameter waits for its handler when there is one and its name is not reserved. -/
theorem special?_eq (filter : Filter Q) (entry : String × String) :
    filter.special? entry
      = if filter.handlers.hasKey entry.1 && !filter.settings.reserved.contains entry.1
        then some entry else none := by
  rw [special?]
  by_cases special : filter.handlers.hasKey entry.1
  · rw [role_of_hasKey special]
    cases filter.settings.reserved.contains entry.1 <;> simp [special]
  · have plain (key : String) : filter.role entry.1 ≠ some (.special key) := by
      intro asked
      rcases role_cases asked with ⟨-, registered⟩ | ⟨_, _, _, _, other, _⟩
      · exact special registered
      · contradiction
    cases asked : filter.role entry.1 with
    | none => simp [special]
    | some role =>
      cases role with
      | special key => exact absurd asked (plain key)
      | field field operator => simp [special]

/-- The text that waits for the handler of a key is the one that the request gives. -/
theorem lookup_pending (filter : Filter Q) (request : Params) (key : String) :
    (request.entries.filterMap filter.special?).lookup key
      = if filter.handlers.hasKey key && !filter.settings.reserved.contains key
        then request.find? key else none := by
  let waits (name : String) : Bool :=
    filter.handlers.hasKey name && !filter.settings.reserved.contains name
  have selected : request.entries.filterMap filter.special?
      = request.entries.filter fun entry => waits entry.1 := by
    rw [← List.filterMap_eq_filter]
    refine List.filterMap_congr fun entry _ => ?_
    rw [special?_eq, Option.guard]
  rw [selected]
  exact Entries.find?_filter

/-- A parameter with a handler asks for no condition. -/
theorem condition?_eq_none {filter : Filter Q} {schema : Option Schema} {entry : String × String}
    (special : filter.handlers.hasKey entry.1) : filter.condition? schema entry = none := by
  rw [condition?, role_of_hasKey special]
  cases filter.settings.reserved.contains entry.1 <;> rfl

/-- Parameters with handlers contribute no condition, so those of a request are the ones of its
other parameters. -/
theorem conditions_without (filter : Filter Q) (schema : Option Schema) (request : Params) :
    filter.conditions schema (request.without filter.handlers.keys).entries
      = filter.conditions schema request.entries := by
  rw [conditions, conditions, Params.without, List.filterMap_filter]
  refine List.filterMap_congr fun entry _ => ?_
  by_cases special : filter.handlers.hasKey entry.1
  · have listed : filter.handlers.keys.contains entry.1 :=
      List.contains_iff_mem.2 (Registry.hasKey_iff.1 special)
    rw [listed, condition?_eq_none special]
    rfl
  · have unlisted : filter.handlers.keys.contains entry.1 = false := by
      rw [Bool.eq_false_iff]
      exact fun listed => special (Registry.hasKey_iff.2 (List.contains_iff_mem.1 listed))
    rw [unlisted]
    rfl

/-- The query with the compiled condition in it, when anything was compiled. -/
theorem filterBy_condition? [QueryBuilder Q] (compiled : Compiled) (query : Q) :
    (match compiled.condition? with
      | some condition => QueryBuilder.filterBy query condition compiled.values
      | none => query)
      = if compiled.predicates = [] then query
        else QueryBuilder.filterBy query (" AND ".intercalate compiled.predicates)
          compiled.values := by
  rw [Compiled.condition?, Compiled.isEmpty, Compiled.joined]
  cases compiled.predicates with
  | nil => rfl
  | cons first rest => rw [if_neg (List.cons_ne_nil first rest)]; rfl

/-- A filter adds at most one condition and then runs the handlers whose keys the request holds, in
the order of their first registrations, the last registered for each key. -/
theorem apply_runs [QueryBuilder Q] (filter : Filter Q) (registrations : List (String × Handler Q))
    (request : Params) (query : Q) :
    let filter : Filter Q :=
      { filter with handlers := Registry.ofList registrations, uri := none, params := some request }
    let keys := (registrations.map (·.1)).eraseDups
    let compiled := (filter.compile (QueryBuilder.schema query)).value
    let start :=
      if compiled.predicates = [] then query
      else QueryBuilder.filterBy query (" AND ".intercalate compiled.predicates) compiled.values
    (∃ runs : List (HandlerRun Q),
        runs.map (·.key)
            = keys.filter (fun key => request.hasKey key && !filter.settings.reserved.contains key)
          ∧ (∀ run ∈ runs, registrations.reverse.lookup run.key = some run.handler
            ∧ request.find? run.key = some run.text)
          ∧ (filter.apply query).value
            = runs.foldl (fun query run => run.handler run.text query) start
          ∧ (filter.apply query).events
            = (filter.compile (QueryBuilder.schema query)).events
              ++ runs.map fun run => .handlerRuns run.key)
      ∧ keys.Nodup
      ∧ (∀ pairs key, (Params.ofList pairs).find? key = pairs.reverse.lookup key)
      ∧ (∀ schema, let others := (filter.boundTo (request.without keys)).compile schema
          (filter.compile schema).value.predicates = others.value.predicates
            ∧ (filter.compile schema).value.values = others.value.values)
      ∧ ∀ key ∈ keys, ∀ schema text, let own := (filter.contribution schema key text).value
          own.predicates = [] ∧ own.values = [] := by
  intro filter keys compiled start
  have registered : filter.handlers.keys = keys := Registry.keys_ofList registrations
  have distinct : filter.handlers.keys.Nodup := Registry.nodup_keys_ofList registrations
  have special (key : String) (member : key ∈ keys) : filter.handlers.hasKey key :=
    Registry.hasKey_iff.2 (registered ▸ member)
  have whole (schema : Option Schema) (bound : Params) :
      ((filter.boundTo bound).compile schema).value =
        { predicates := (filter.conditions schema bound.entries).map Condition.sql
          values := (filter.conditions schema bound.entries).filterMap Condition.value
          pending := bound.entries.filterMap filter.special? } := by
    rw [compile_boundTo rfl, contributions_value]
  have waiting (key : String) (member : key ∈ keys) : compiled.pending.lookup key
      = if filter.settings.reserved.contains key then none else request.find? key := by
    have pending : compiled.pending = request.entries.filterMap filter.special? :=
      congrArg Compiled.pending (whole _ request)
    rw [pending, lookup_pending, special key member]
    cases filter.settings.reserved.contains key <;> rfl
  refine ⟨⟨filter.handlers.runs compiled.pending, ?which, ?what, ?value, ?events⟩, ?distinct,
    ?lastText, ?others, ?silent⟩
  case which =>
    rw [Handlers.keys_runs, registered]
    refine List.filter_congr fun key member => ?_
    rw [waiting key member, Params.hasKey]
    cases filter.settings.reserved.contains key <;> simp
  case what =>
    intro run member
    obtain ⟨inside, text⟩ := Handlers.mem_runs member
    have found := (Keyed.find?_eq_some_iff distinct).2 inside
    have key : run.key ∈ keys := registered ▸ List.mem_map_of_mem inside
    rw [waiting run.key key] at text
    refine ⟨(Registry.find?_ofList registrations run.key).symm.trans found, ?_⟩
    cases reserved : filter.settings.reserved.contains run.key with
    | true => rw [reserved, if_pos rfl] at text; contradiction
    | false => rwa [reserved, if_neg Bool.false_ne_true] at text
  case value =>
    have started : _ = start := filterBy_condition? compiled query
    rw [← started, apply]
    simp only [Journal.value_bind, Handlers.dispatch_eq]
    rfl
  case events =>
    rw [apply]
    simp only [Journal.events_bind, Handlers.dispatch_eq]
    rfl
  case distinct => exact registered ▸ distinct
  case lastText => exact Params.find?_ofList
  case others =>
    intro schema others
    have same := filter.conditions_without schema request
    rw [registered] at same
    have own : (filter.compile schema).value = _ := whole schema request
    have remaining : others.value = _ := whole schema (request.without keys)
    rw [own, remaining, same]
    exact ⟨rfl, rfl⟩
  case silent =>
    intro key member schema text own
    have contributed : own = _ := filter.contribution_value schema (key, text)
    rw [condition?_eq_none (special key member)] at contributed
    rw [contributed]
    exact ⟨rfl, rfl⟩

/-- A handler that is replaced, one for an allowed field and one for a reserved name: the first two
run in the order of registration and not of the request, the last does not. -/
theorem apply_runs_overlapping_keys :
    let adding (sql : String) : Handler := fun text query => query.filterBy sql [.text text]
    let registrations : List (String × Handler) :=
      [("q", adding "old"), ("age", adding "age"), ("page", adding "page"), ("q", adding "new")]
    let request : Params := {
      entries := [("age", "1"), ("name", "x"), ("page", "2"), ("q", "raw")]
      ascending := by unfold Entries.Ascending; decide }
    let filter : Filter :=
      { fields := ["age", "name", "q"], handlers := Registry.ofList registrations
        params := some request }
    "age" ∈ (registrations.map (·.1)).eraseDups
      ∧ (filter.contribution none "age" "1").value.predicates = []
      ∧ (∃ runs : List (HandlerRun Select), runs.map (·.key) = ["q", "age"]
        ∧ (filter.apply { table := "t" }).events
          = (filter.compile none).events ++ [.handlerRuns "q", .handlerRuns "age"])
      ∧ (filter.apply { table := "t" }).value.clauses.map (·.sql)
        = ["\"name\" = ?", "new", "age"] := by
  intro adding registrations request filter
  have member : "age" ∈ (registrations.map (·.1)).eraseDups := by decide
  obtain ⟨⟨runs, order, -, -, events⟩, -, -, -, silent⟩ :=
    apply_runs filter registrations request { table := "t" }
  have keys : runs.map (·.key) = ["q", "age"] := order
  have noted : runs.map (fun run => Event.handlerRuns run.key)
      = (runs.map (·.key)).map Event.handlerRuns := List.map_map.symm
  rw [noted, keys] at events
  exact ⟨member, (silent "age" member none "1").1, ⟨runs, keys, events⟩, rfl⟩

end Filter

end Listing
