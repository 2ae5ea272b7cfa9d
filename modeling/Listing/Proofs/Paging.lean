import Listing.Envelope
import Listing.Proofs.Entries
import Listing.Proofs.Numerals
import Listing.Select
import Mathlib.Algebra.Ring.Nat
import Mathlib.Data.List.Basic

/-!
# Walks through the pages of a result

A client that asks for the first page, and then for the page that each envelope reports as the next,
sees the pages one after the other up to the last. Main statements: `pageCount_bounds` and
`compute_eq` give the numbers of a page in exact arithmetic, `flatMap_pages` says that the rows of
pages follow one another, and `next_visits_every_row` that a walk ends after the last page, leaves
out no row and repeats none.
-/
namespace Listing

/-! ## Numbers of pages -/

namespace Cursor

/-- The size of pages is positive, whatever is asked for. -/
theorem normalSize_pos (settings : Settings) (asked : Int64) :
    0 < (normalSize settings asked).toNat := by
  rw [normalSize, UInt64.toNat_max]
  exact Nat.lt_of_lt_of_le Nat.zero_lt_one (Nat.le_max_right _ _)

/-- The number of pages is the quotient of the rows and the size, rounded up, and at least one. -/
theorem toNat_pageCount {rows size : UInt64} (positive : 0 < size.toNat) :
    (pageCount rows size).toNat
      = max (if rows.toNat % size.toNat = 0 then rows.toNat / size.toNat
          else rows.toNat / size.toNat + 1) 1 := by
  have even : rows % size = 0 ↔ rows.toNat % size.toNat = 0 := by
    rw [← UInt64.toNat_inj, UInt64.toNat_mod]
    rfl
  rw [pageCount, UInt64.toNat_max]
  by_cases whole : rows.toNat % size.toNat = 0
  · rw [if_pos (even.2 whole), if_pos whole, UInt64.toNat_div]
    rfl
  · have several : size.toNat ≠ 1 := by
      intro one
      rw [one, Nat.mod_one] at whole
      contradiction
    have half : rows.toNat / size.toNat ≤ rows.toNat / 2 :=
      Nat.div_le_div_left (by omega) (by decide)
    have bound := rows.toNat_lt
    rw [if_neg (fun divides => whole (even.1 divides)), if_neg whole, UInt64.toNat_add,
      UInt64.toNat_div]
    change max ((rows.toNat / size.toNat + 1) % 2 ^ 64) 1 = _
    rw [Nat.mod_eq_of_lt (by omega)]

/-- The last page is the first one by which all rows are seen. -/
theorem pageCount_bounds {rows size : UInt64} (positive : 0 < size.toNat) :
    let last := (pageCount rows size).toNat
    1 ≤ last ∧ rows.toNat ≤ last * size.toNat
      ∧ (last = 1 ∨ (last - 1) * size.toNat < rows.toNat) := by
  intro last
  have count : last = _ := toNat_pageCount positive
  have divided := Nat.div_add_mod' rows.toNat size.toNat
  have rest := Nat.mod_lt rows.toNat positive
  generalize rows.toNat / size.toNat = quotient at count divided
  by_cases whole : rows.toNat % size.toNat = 0
  · rw [if_pos whole] at count
    rw [whole, Nat.add_zero] at divided
    by_cases none : quotient = 0
    · rw [none] at count divided
      rw [count, ← divided]
      simp
    · have exactly : last = quotient := by omega
      have shorter : (last - 1) * size.toNat + size.toNat = last * size.toNat := by
        rw [← Nat.succ_mul, Nat.succ_eq_add_one, Nat.sub_add_cancel (by omega)]
      rw [← exactly] at divided
      exact ⟨by omega, by omega, .inr (by omega)⟩
  · rw [if_neg whole] at count
    have exactly : last = quotient + 1 := by omega
    rw [exactly, Nat.add_one_sub_one, Nat.add_one_mul]
    exact ⟨by omega, by omega, .inr (by omega)⟩

/-- The rows before a page are fewer than all rows, unless both are none. -/
theorem rows_before_lt {rows size : UInt64} (positive : 0 < size.toNat) {number : Nat}
    (inside : number ≤ (pageCount rows size).toNat) :
    (number - 1) * size.toNat < max rows.toNat 1 := by
  obtain ⟨-, -, only | short⟩ : 1 ≤ (pageCount rows size).toNat ∧ _ ∧ _ :=
    pageCount_bounds positive
  · rw [show number - 1 = 0 by omega, Nat.zero_mul]
    exact Nat.lt_of_lt_of_le Nat.zero_lt_one (Nat.le_max_right _ _)
  · calc (number - 1) * size.toNat
      _ ≤ ((pageCount rows size).toNat - 1) * size.toNat :=
          Nat.mul_le_mul_right _ (Nat.sub_le_sub_right inside 1)
      _ < rows.toNat := short
      _ ≤ max rows.toNat 1 := Nat.le_max_left _ _

/-- A page that lies in the result is the current one when it is asked for. -/
theorem compute_eq (settings : Settings) (total : UInt64) (asked : Int64) {number : Nat}
    (positive : 1 ≤ number) (small : number < 2 ^ 63)
    (inside : number ≤ (pageCount total (normalSize settings asked)).toNat) :
    compute settings total (Int64.ofNat number) asked =
      { current := UInt64.ofNat number
        previous := if 1 < number then some (UInt64.ofNat (number - 1)) else none
        next :=
          if number < (pageCount total (normalSize settings asked)).toNat then
            some (UInt64.ofNat (number + 1))
          else none
        pageSize := normalSize settings asked
        lastPage := pageCount total (normalSize settings asked) } := by
  have value : (UInt64.ofNat number).toNat = number :=
    UInt64.toNat_ofNat_of_lt' (Nat.lt_trans small (by decide))
  have above : ¬ Int64.ofNat number ≤ 0 := by
    rw [Int64.le_iff_toInt_le, Int64.toInt_ofNat_of_lt small]
    change ¬ (number : Int) ≤ 0
    omega
  have kept : min (UInt64.ofNat number) (pageCount total (normalSize settings asked))
      = UInt64.ofNat number := by
    refine if_pos (UInt64.le_iff_toNat_le.2 ?_)
    rwa [value]
  have later : (1 : UInt64) < UInt64.ofNat number ↔ 1 < number := by
    rw [UInt64.lt_iff_toNat_lt, value]
    rfl
  have before : UInt64.ofNat number < pageCount total (normalSize settings asked)
      ↔ number < (pageCount total (normalSize settings asked)).toNat := by
    rw [UInt64.lt_iff_toNat_lt, value]
  have less : UInt64.ofNat number - 1 = UInt64.ofNat (number - 1) :=
    (UInt64.ofNat_sub positive).symm
  have more : UInt64.ofNat number + 1 = UInt64.ofNat (number + 1) := (UInt64.ofNat_add ..).symm
  simp only [compute, if_neg above, Int64.toUInt64_ofNat', kept, later, before, less, more]

/-- The rows before a page are counted exactly when they are not more than all rows. -/
theorem toNat_offset {cursor : Cursor} {number : Nat} (positive : 1 ≤ number)
    (current : cursor.current.toNat = number)
    (bound : (number - 1) * cursor.pageSize.toNat < 2 ^ 64) :
    cursor.offset.toNat = (number - 1) * cursor.pageSize.toNat := by
  have one : (1 : UInt64).toNat ≤ cursor.current.toNat := by
    rw [current]
    exact positive
  rw [offset, UInt64.toNat_mul, UInt64.toNat_sub_of_le _ _ (UInt64.le_iff_toNat_le.2 one), current]
  exact Nat.mod_eq_of_lt bound

end Cursor

/-! ## Rows of pages -/

/-- The rows of a result that a window leaves. -/
def Window.cut {α : Type} (window : Window) (rows : List α) : List α :=
  let kept := rows.drop (window.skip.elim 0 UInt64.toNat)
  match window.take with
  | none => kept
  | some limit => kept.take limit.toNat

/-- The rows of pages from the first on follow one another without gap or overlap. -/
theorem flatMap_pages {α : Type} (rows : List α) (size count : Nat) :
    (List.range' 1 count).flatMap (fun number => (rows.drop ((number - 1) * size)).take size)
      = rows.take (count * size) := by
  induction count with
  | zero => simp
  | succ count ih =>
    rw [List.range'_1_concat, List.flatMap_append, ih, Nat.succ_mul, List.take_add]
    simp

/-! ## Walks -/

namespace Params

/-- Of two values put in under one name the later counts. -/
theorem insert_insert (params : Params) (name first second : String) :
    (params.insert name first).insert name second = params.insert name second := by
  refine eq_of_find?_eq fun key => ?_
  rw [find?_insert, find?_insert, find?_insert]
  split <;> rfl

end Params

namespace Page

/-- The page that the same request leads to with another number of the page. -/
def turnTo (page : Page) (number : UInt64) : Page :=
  page.rebind (.params (page.params.insert page.settings.pageParam (toString number.toNat)))

/-- Of two numbers of the page the later counts. -/
theorem turnTo_turnTo (page : Page) (first second : UInt64) :
    (page.turnTo first).turnTo second = page.turnTo second := by
  simp only [turnTo, rebind, Params.insert_insert]

/-- The pages that a client sees from a page on that asks for the page which each envelope reports
as the next, as long as there is one. -/
inductive Walk : Page → List Page → Prop
  /-- The envelope reports no next page. -/
  | stop {page : Page} (rows : Json) (last : (page.envelope rows).next = none) : Walk page [page]
  /-- The envelope reports the number of the next page. -/
  | turn {page : Page} {number : UInt64} {pages : List Page} (rows : Json)
      (next : (page.envelope rows).next = some number) (rest : Walk (page.turnTo number) pages) :
      Walk page (page :: pages)

/-- There is only one walk from a page. -/
theorem Walk.unique {page : Page} {first second : List Page} (one : Walk page first)
    (other : Walk page second) : first = second := by
  induction one generalizing second with
  | stop rows last =>
    cases other with
    | stop => rfl
    | turn _ next => exact absurd (last.symm.trans next) (by simp)
  | turn rows next rest ih =>
    cases other with
    | stop _ last => exact absurd (last.symm.trans next) (by simp)
    | turn _ same others =>
      obtain rfl := Option.some.inj (next.symm.trans same)
      rw [ih others]

/-- The size that the request of a page asks for. -/
def askedSize (page : Page) : Int64 :=
  page.params.intOr page.settings.pageSizeParam page.settings.pageSize.toInt64

/-- The size of the pages that a request leads to. -/
def size (page : Page) : UInt64 := Cursor.normalSize page.settings page.askedSize

/-- The number of the last page that a request leads to. -/
def lastPage (page : Page) : UInt64 := Cursor.pageCount page.total page.size

/-- Turning to a page asks for its number and for the same size of pages. -/
theorem cursor_turnTo {page : Page} {number : UInt64} (small : number.toNat < 2 ^ 63)
    (distinct : page.settings.pageParam ≠ page.settings.pageSizeParam) :
    (page.turnTo number).cursor
      = Cursor.compute page.settings page.total (Int64.ofNat number.toNat) page.askedSize := by
  change Cursor.compute _ _ (Params.intOr _ _ _) (Params.intOr _ _ _) = _
  rw [Params.intOr_insert_toString, if_pos small, Params.intOr_insert_of_ne distinct.symm,
    askedSize]

/-- The pages of a request hold all rows, and no page is needless. -/
theorem lastPage_bounds (page : Page) :
    1 ≤ page.lastPage.toNat ∧ page.total.toNat ≤ page.lastPage.toNat * page.size.toNat
      ∧ (page.lastPage.toNat = 1
        ∨ (page.lastPage.toNat - 1) * page.size.toNat < page.total.toNat) :=
  Cursor.pageCount_bounds (Cursor.normalSize_pos page.settings page.askedSize)

/-- There are no more pages than rows, unless the only page is empty. -/
theorem lastPage_lt {page : Page} (small : page.total.toNat < 2 ^ 63) :
    page.lastPage.toNat < 2 ^ 63 := by
  obtain ⟨-, -, only | short⟩ := page.lastPage_bounds
  · rw [only]
    decide
  · have positive : 0 < page.size.toNat := Cursor.normalSize_pos _ _
    have fewer := Nat.le_mul_of_pos_right (page.lastPage.toNat - 1) positive
    omega

/-- The rows before a page are not more than all rows. -/
theorem rows_before_le {page : Page} (number : Nat) (inside : number ≤ page.lastPage.toNat) :
    (number - 1) * page.size.toNat ≤ page.total.toNat := by
  have fewer := Cursor.rows_before_lt (Cursor.normalSize_pos page.settings page.askedSize) inside
  change (number - 1) * page.size.toNat < _ at fewer
  omega

/-- The rows of a page end where those of the next page begin; the last page ends with all rows. -/
theorem rows_through_eq {page : Page} {number : Nat} (positive : 1 ≤ number)
    (inside : number ≤ page.lastPage.toNat) :
    min ((number - 1) * page.size.toNat + page.size.toNat) page.total.toNat
      = if number < page.lastPage.toNat then number * page.size.toNat else page.total.toNat := by
  have through : (number - 1) * page.size.toNat + page.size.toNat = number * page.size.toNat := by
    rw [← Nat.succ_mul, Nat.succ_eq_add_one, Nat.sub_add_cancel positive]
  rw [through]
  split
  · rename_i before
    have next := rows_before_le (number + 1) before
    rw [Nat.add_one_sub_one] at next
    exact Nat.min_eq_left next
  · have final : number = page.lastPage.toNat := by omega
    rw [final]
    exact Nat.min_eq_right page.lastPage_bounds.2.1

/-- The number of a page that lies in the result is a word. -/
theorem toNat_number {page : Page} {number : Nat} (small : page.total.toNat < 2 ^ 63)
    (inside : number ≤ page.lastPage.toNat) : (UInt64.ofNat number).toNat = number :=
  have bound : number < 2 ^ 63 := Nat.lt_of_le_of_lt inside (lastPage_lt small)
  UInt64.toNat_ofNat_of_lt' (Nat.lt_trans bound (by decide))

section Numbered

variable {page : Page} {number : Nat} (small : page.total.toNat < 2 ^ 63)
  (distinct : page.settings.pageParam ≠ page.settings.pageSizeParam) (positive : 1 ≤ number)
  (inside : number ≤ page.lastPage.toNat)

include small distinct positive inside

/-- The place of a page that lies in the result and is asked for. -/
theorem cursor_numbered :
    (page.turnTo (UInt64.ofNat number)).cursor =
      { current := UInt64.ofNat number
        previous := if 1 < number then some (UInt64.ofNat (number - 1)) else none
        next :=
          if number < page.lastPage.toNat then some (UInt64.ofNat (number + 1)) else none
        pageSize := page.size
        lastPage := page.lastPage } := by
  have bound : number < 2 ^ 63 := Nat.lt_of_le_of_lt inside (lastPage_lt small)
  have value := toNat_number small inside
  rw [cursor_turnTo (by rwa [value]) distinct, value]
  exact Cursor.compute_eq _ _ _ positive bound inside

/-- The neighbours that the envelope of a page reports. -/
theorem neighbours_numbered (rows : Json) :
    let envelope := (page.turnTo (UInt64.ofNat number)).envelope rows
    envelope.page.toNat = number
      ∧ envelope.previous.map UInt64.toNat = (if 1 < number then some (number - 1) else none)
      ∧ envelope.next.map UInt64.toNat
        = if number < page.lastPage.toNat then some (number + 1) else none := by
  intro envelope
  have here := cursor_numbered small distinct positive inside
  have current : envelope.page = UInt64.ofNat number := congrArg Cursor.current here
  have previous : envelope.previous
      = if 1 < number then some (UInt64.ofNat (number - 1)) else none :=
    congrArg Cursor.previous here
  have next : envelope.next
      = if number < page.lastPage.toNat then some (UInt64.ofNat (number + 1)) else none :=
    congrArg Cursor.next here
  rw [current, previous, next]
  refine ⟨toNat_number small inside, ?_, ?_⟩
  · split
    · rw [Option.map_some, toNat_number small (Nat.le_trans (Nat.sub_le number 1) inside)]
    · rfl
  · split
    · rename_i before
      rw [Option.map_some, toNat_number small before]
    · rfl

/-- The window of a page starts with the row after those of the pages before. -/
theorem window_numbered (query : Select) :
    ∃ offset,
      let window : Window := { skip := some offset, take := some page.size }
      ((page.turnTo (UInt64.ofNat number)).apply query).value.window = window
        ∧ (page.turnTo (UInt64.ofNat number)).cursor.window = .ok window
        ∧ offset.toNat = (number - 1) * page.size.toNat := by
  let cursor := (page.turnTo (UInt64.ofNat number)).cursor
  have here : cursor = _ := cursor_numbered small distinct positive inside
  have full : cursor.pageSize = page.size := congrArg Cursor.pageSize here
  have current : cursor.current.toNat = number := by
    rw [here]
    exact toNat_number small inside
  have bound : (number - 1) * page.size.toNat < UInt64.size :=
    Nat.lt_of_le_of_lt (rows_before_le number inside) (Nat.lt_trans small (by decide))
  have before : cursor.offset.toNat = (number - 1) * page.size.toNat := by
    rw [← full]
    exact Cursor.toNat_offset positive current (by rwa [full])
  refine ⟨cursor.offset, ?_, ?_, before⟩
  · rw [← full]
    rfl
  · change Window.ofPage cursor.current cursor.pageSize = _
    rw [Window.ofPage, current, full, if_pos bound, ← before, UInt64.ofNat_toNat]

/-- The rows that a page leaves of a result. -/
theorem cut_numbered {α : Type} (rows : List α) (query : Select) :
    ((page.turnTo (UInt64.ofNat number)).apply query).value.window.cut rows
      = (rows.drop ((number - 1) * page.size.toNat)).take page.size.toNat := by
  obtain ⟨offset, applied, -, before⟩ := window_numbered small distinct positive inside query
  rw [applied, ← before]
  rfl

end Numbered

/-- A walk from a page that lies in the result sees the pages from there to the last. -/
theorem walk_from {page : Page} (small : page.total.toNat < 2 ^ 63)
    (distinct : page.settings.pageParam ≠ page.settings.pageSizeParam) (number ahead : Nat)
    (positive : 1 ≤ number) (last : number + ahead = page.lastPage.toNat) :
    Walk (page.turnTo (UInt64.ofNat number))
      ((List.range' number (ahead + 1)).map fun number => page.turnTo (UInt64.ofNat number)) := by
  induction ahead generalizing number with
  | zero =>
    refine .stop .null ?_
    change (page.turnTo _).cursor.next = none
    rw [cursor_numbered small distinct positive (by omega)]
    exact if_neg (by omega)
  | succ ahead ih =>
    have next : (page.turnTo (UInt64.ofNat number)).cursor.next
        = some (UInt64.ofNat (number + 1)) := by
      rw [cursor_numbered small distinct positive (by omega)]
      exact if_pos (by omega)
    have later := ih (number + 1) (by omega) (by omega)
    rw [← turnTo_turnTo page (UInt64.ofNat number)] at later
    rw [List.range'_succ, List.map_cons]
    exact .turn .null next later

/-- The one walk that follows the next page from the first sees the pages in order up to the last,
and their windows leave every row of the result once. -/
theorem next_visits_every_row (page : Page) (small : page.total.toNat < 2 ^ 63)
    (distinct : page.settings.pageParam ≠ page.settings.pageSizeParam) :
    let numbered (number : Nat) := page.turnTo (UInt64.ofNat number)
    let size := (numbered 1).cursor.pageSize
    let last := (numbered 1).cursor.lastPage
    let visited := (List.range' 1 last.toNat).map numbered
    Walk (numbered 1) visited
      ∧ (∀ pages, Walk (numbered 1) pages → pages = visited)
      ∧ (∀ number, 1 ≤ number → number ≤ last.toNat →
          (numbered number).cursor.pageSize = size ∧ (numbered number).cursor.lastPage = last
            ∧ (∀ rows, let envelope := (numbered number).envelope rows
                envelope.total = page.total ∧ envelope.page.toNat = number
                ∧ envelope.previous.map UInt64.toNat
                  = (if 1 < number then some (number - 1) else none)
                ∧ envelope.next.map UInt64.toNat
                  = if number < last.toNat then some (number + 1) else none)
            ∧ ∀ query : Select, ∃ offset,
                let window : Window := { skip := some offset, take := some size }
                ((numbered number).apply query).value.window = window
                  ∧ (numbered number).cursor.window = .ok window
                  ∧ window.sql = "LIMIT " ++ toString size.toNat ++ " "
                      ++ ("OFFSET " ++ toString offset.toNat)
                  ∧ offset.toNat = (number - 1) * size.toNat
                  ∧ min (offset.toNat + size.toNat) page.total.toNat
                    = if number < last.toNat then number * size.toNat else page.total.toNat)
      ∧ ∀ {α : Type} (rows : List α) (query : Select), rows.length = page.total.toNat →
          visited.flatMap (fun here => (here.apply query).value.window.cut rows) = rows := by
  intro numbered size last visited
  have least := page.lastPage_bounds.1
  have first := cursor_numbered small distinct (Nat.le_refl 1) least
  have sameSize : size = page.size := congrArg Cursor.pageSize first
  have sameLast : last = page.lastPage := congrArg Cursor.lastPage first
  have walk : Walk (numbered 1) visited := by
    have seen := walk_from small distinct 1 (page.lastPage.toNat - 1) (Nat.le_refl 1) (by omega)
    rw [Nat.sub_add_cancel least, ← sameLast] at seen
    exact seen
  rw [sameSize, sameLast]
  refine ⟨walk, fun pages other => other.unique walk, ?_, ?_⟩
  · intro number positive inside
    have here := cursor_numbered small distinct positive inside
    refine ⟨congrArg Cursor.pageSize here, congrArg Cursor.lastPage here, ?_, ?_⟩
    · intro rows envelope
      exact ⟨rfl, neighbours_numbered small distinct positive inside rows⟩
    · intro query
      obtain ⟨offset, applied, window, before⟩ :=
        window_numbered small distinct positive inside query
      refine ⟨offset, applied, window, rfl, before, ?_⟩
      rw [before]
      exact rows_through_eq positive inside
  · intro α rows query count
    have cut (number : Nat) (member : number ∈ List.range' 1 page.lastPage.toNat) :
        ((numbered number).apply query).value.window.cut rows
          = (rows.drop ((number - 1) * page.size.toNat)).take page.size.toNat := by
      obtain ⟨positive, inside⟩ := List.mem_range'_1.1 member
      exact cut_numbered small distinct positive (by omega) rows query
    calc visited.flatMap (fun here => (here.apply query).value.window.cut rows)
      _ = (List.range' 1 page.lastPage.toNat).flatMap fun number =>
            ((numbered number).apply query).value.window.cut rows := by
          rw [← sameLast, List.flatMap_map]
      _ = (List.range' 1 page.lastPage.toNat).flatMap fun number =>
            (rows.drop ((number - 1) * page.size.toNat)).take page.size.toNat := by
          rw [List.flatMap_def, List.flatMap_def, List.map_congr_left cut]
      _ = rows.take (page.lastPage.toNat * page.size.toNat) := flatMap_pages rows _ _
      _ = rows := List.take_of_length_le (by rw [count]; exact page.lastPage_bounds.2.1)

/-- Five rows are seen on three pages of two, the last of which is not full. -/
theorem next_visits_every_row_part_page :
    let page : Page := { total := 5, params := Params.empty.insert "page_size" "2" }
    page.total.toNat < 2 ^ 63 ∧ page.settings.pageParam ≠ page.settings.pageSizeParam
      ∧ ∃ pages, Walk (page.turnTo 1) pages ∧ pages.length = 3
        ∧ ∀ query : Select,
          pages.flatMap (fun here => (here.apply query).value.window.cut [10, 20, 30, 40, 50])
            = [10, 20, 30, 40, 50] := by
  intro page
  have small : page.total.toNat < 2 ^ 63 := by decide
  have distinct : page.settings.pageParam ≠ page.settings.pageSizeParam := by decide
  have last : (page.turnTo (UInt64.ofNat 1)).cursor.lastPage = 3 := by decide +kernel
  obtain ⟨walk, -, -, rows⟩ := next_visits_every_row page small distinct
  refine ⟨small, distinct, _, walk, ?_, fun query => rows [10, 20, 30, 40, 50] query rfl⟩
  rw [List.length_map, List.length_range', last]
  rfl

end Page

end Listing
