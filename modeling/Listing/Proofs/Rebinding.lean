import Listing.Envelope

/-!
# Pages that are bound anew

A page keeps its place in the result beside the parameters and the settings that it is found from,
and both can be replaced any number of times. The place always is the one that the parameters and
the settings bound last ask for; whatever was bound before them leaves no trace. Main statements:
`rebind_eq` for one rebinding, `foldl_rebind` for any number of them from any page, and
`reflects_latest_bindings` for a new page and all that is read from its place.
-/
namespace Listing

namespace Rebinding

/-- The parameters that are bound, when it is parameters. -/
def params? : Rebinding → Option Params
  | .params asked => some asked
  | .settings _ => none

/-- The settings that are bound, when it is settings. -/
def settings? : Rebinding → Option Settings
  | .params _ => none
  | .settings given => some given

/-- The parameters bound last, or those from before when none are bound. -/
def lastParams (rebindings : List Rebinding) (before : Params := Params.empty) : Params :=
  (rebindings.filterMap params?).getLastD before

/-- The settings bound last, or those from before when none are bound. -/
def lastSettings (rebindings : List Rebinding) (before : Settings := {}) : Settings :=
  (rebindings.filterMap settings?).getLastD before

/-- The parameters that are bound first are those from before for what is bound later. -/
theorem lastParams_cons (first : Rebinding) (later : List Rebinding) (before : Params) :
    lastParams (first :: later) before = lastParams later (first.params?.getD before) := by
  cases bound : first.params? with
  | none => rw [lastParams, List.filterMap_cons_none bound, Option.getD_none, lastParams]
  | some asked =>
    rw [lastParams, List.filterMap_cons_some bound, List.getLastD_cons, Option.getD_some,
      lastParams]

/-- The settings that are bound first are those from before for what is bound later. -/
theorem lastSettings_cons (first : Rebinding) (later : List Rebinding) (before : Settings) :
    lastSettings (first :: later) before = lastSettings later (first.settings?.getD before) := by
  cases bound : first.settings? with
  | none => rw [lastSettings, List.filterMap_cons_none bound, Option.getD_none, lastSettings]
  | some given =>
    rw [lastSettings, List.filterMap_cons_some bound, List.getLastD_cons, Option.getD_some,
      lastSettings]

end Rebinding

namespace Page

open Rebinding (lastParams lastSettings)

/-- The page that parameters ask for under settings. -/
def bound (total : UInt64) (params : Params) (settings : Settings) : Page :=
  { total, params, settings }

/-- A page is what its total, its parameters and its settings make it. -/
theorem eq_bound (page : Page) : page = bound page.total page.params page.settings := by
  obtain ⟨total, params, settings, cursor, rfl⟩ := page
  rfl

/-- A page bound anew is the page of what is bound, and for the rest of what was bound before. -/
theorem rebind_eq (page : Page) (rebinding : Rebinding) :
    page.rebind rebinding
      = bound page.total (rebinding.params?.getD page.params)
        (rebinding.settings?.getD page.settings) := by
  cases rebinding with
  | params asked => rfl
  | settings given => rfl

/-- A page that is bound anew any number of times is the page of what is bound last. -/
theorem foldl_rebind (page : Page) (rebindings : List Rebinding) :
    rebindings.foldl rebind page
      = bound page.total (lastParams rebindings page.params)
        (lastSettings rebindings page.settings) := by
  induction rebindings generalizing page with
  | nil => exact eq_bound page
  | cons first later ih =>
    rw [List.foldl_cons, ih, rebind_eq, Rebinding.lastParams_cons, Rebinding.lastSettings_cons]
    rfl

/-- However often and in whatever order a page is bound anew, it is the page that the last
parameters and the last settings make of a new one. -/
theorem reflects_latest_bindings (total : UInt64) (rebindings : List Rebinding) :
    let params := lastParams rebindings
    let settings := lastSettings rebindings
    let page := rebindings.foldl rebind { total }
    let cursor := Cursor.compute settings total (params.intOr settings.pageParam 0)
      (params.intOr settings.pageSizeParam settings.pageSize.toInt64)
    page = (({ total } : Page).rebind (.params params)).rebind (.settings settings) ∧
    (∀ asked given,
      let anew := (({ total } : Page).rebind (.params asked)).rebind (.settings given)
      (page.rebind (.params asked)).rebind (.settings given) = anew ∧
      (page.rebind (.settings given)).rebind (.params asked) = anew) ∧
    page.cursor = cursor ∧
    (∀ {Q : Type} [QueryBuilder Q] (query : Q),
      (page.apply query).value
        = QueryBuilder.take (QueryBuilder.skip query cursor.offset) cursor.pageSize) ∧
    (∀ rows, page.envelope rows
      = { total, results := rows, page := cursor.current, next := cursor.next,
          previous := cursor.previous }) ∧
    ∀ {α β : Type} (rows : α) (build : Cursor → UInt64 → α → β),
      page.bodyWith rows build = build cursor total rows := by
  intro params settings page cursor
  have latest : page = bound total params settings := foldl_rebind { total } rebindings
  have place : page.cursor = cursor := by
    rw [latest]
    rfl
  have size : page.total = total := by
    rw [latest]
    rfl
  refine ⟨?fresh, fun asked given => ?anew, place, fun query => ?query, fun rows => ?envelope,
    fun rows build => ?body⟩
  case fresh =>
    rw [latest, rebind_eq, rebind_eq]
    rfl
  case anew =>
    simp only [latest, rebind_eq]
    exact ⟨rfl, rfl⟩
  case query =>
    rw [← place]
    rfl
  case envelope => rw [envelope, bodyWith, place, size]
  case body => rw [bodyWith, place, size]

-- settings that rename the parameters change what the parameters bound before them ask for
example :
    let asked := Params.ofList [("p", "2"), ("page", "9"), ("per", "5")]
    let renamed : Settings := { pageParam := "p", pageSizeParam := "per" }
    let place (rebindings : List Rebinding) :=
      let cursor := (rebindings.foldl rebind { total := 12 }).cursor
      (cursor.current, cursor.pageSize)
    place [.params asked] = (1, 20) ∧ place [.params asked, .settings renamed] = (2, 5) := by
  decide +kernel

end Page

end Listing
