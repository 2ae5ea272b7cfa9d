import Listing.Proofs.Paging
import Mathlib.Order.Bounds.Defs

/-!
# Numbers of a page in exact arithmetic

The numbers of a page are computed in words of 64 bits, in part from a size that is written into a
signed number and read back. None of this is seen in the numbers that result: they are those of the
same computation in the natural numbers. Main statements: `toNat_normalSize` and `toNat_current`
give size and number of a page for whatever is asked, `isLeast_pageCount` the last page, and
`Page.cursor_exact` what holds of every page.
-/
namespace Listing

namespace Cursor

/-! ## Words -/

/-- A signed number that is positive is the same number without a sign. -/
theorem toNat_toUInt64 {asked : Int64} (positive : ¬ asked ≤ 0) :
    asked.toUInt64.toNat = asked.toInt.toNat := by
  rw [Int64.not_le] at positive
  rw [Int64.toNat_toUInt64_of_le (Int64.le_of_lt positive), Int64.toNat_toInt]

/-- A signed number that is not positive counts as zero. -/
theorem toNat_toInt {asked : Int64} (negative : asked ≤ 0) : asked.toInt.toNat = 0 :=
  Int.toNat_of_nonpos (Int64.le_iff_toInt_le.1 negative)

/-! ## Sizes -/

/-- The size of pages is what is asked for, or the usual size if that is not positive, brought
between one and the greatest size. -/
theorem toNat_normalSize (settings : Settings) (asked : Int64) :
    (normalSize settings asked).toNat
      = max 1 (min (if asked ≤ 0 then settings.pageSize.toNat else asked.toInt.toNat)
          settings.maxPageSize.toNat) := by
  rw [normalSize, UInt64.toNat_max, UInt64.toNat_min, Nat.max_comm]
  by_cases negative : asked ≤ 0
  · rw [if_pos negative, if_pos negative]
    rfl
  · rw [if_neg negative, if_neg negative, toNat_toUInt64 negative]
    rfl

/-- Asking for the usual size by its signed number leads to the usual size, also when the signed
number is negative because the usual size exceeds the signed range. -/
theorem normalSize_toInt64 (settings : Settings) :
    normalSize settings settings.pageSize.toInt64 = normalSize settings 0 := by
  have same : (if settings.pageSize.toInt64 ≤ 0 then settings.pageSize
      else settings.pageSize.toInt64.toUInt64) = settings.pageSize := by
    rw [UInt64.toUInt64_toInt64, ite_self]
  simp only [normalSize, same]
  rfl

/-! ## Places -/

/-- The last page is the least number of pages, from one on, that hold all rows. -/
theorem isLeast_pageCount {rows size : UInt64} (positive : 0 < size.toNat) :
    IsLeast {number : Nat | 1 ≤ number ∧ rows.toNat ≤ number * size.toNat}
      (pageCount rows size).toNat := by
  obtain ⟨first, enough, least⟩ : 1 ≤ (pageCount rows size).toNat ∧ _ ∧ _ :=
    pageCount_bounds positive
  refine ⟨⟨first, enough⟩, ?_⟩
  rintro number ⟨some, holds⟩
  obtain only | short := least
  · rwa [only]
  · have fewer := Nat.lt_of_mul_lt_mul_right (Nat.lt_of_lt_of_le short holds)
    omega

variable (settings : Settings) (total : UInt64) (page size : Int64)

/-- The number of the page is what is asked for, brought between one and the last page. -/
theorem toNat_current :
    let cursor := compute settings total page size
    cursor.current.toNat = max 1 (min page.toInt.toNat cursor.lastPage.toNat) := by
  intro cursor
  change (if page ≤ 0 then 1 else min page.toUInt64 cursor.lastPage).toNat = _
  have last : 1 ≤ cursor.lastPage.toNat :=
    (isLeast_pageCount (normalSize_pos settings size)).1.1
  by_cases negative : page ≤ 0
  · rw [if_pos negative, toNat_toInt negative, Nat.zero_min]
    rfl
  · have first : 1 ≤ page.toInt.toNat := by
      rw [Int64.le_iff_toInt_le] at negative
      change ¬ page.toInt ≤ 0 at negative
      omega
    rw [if_neg negative, UInt64.toNat_min, toNat_toUInt64 negative,
      Nat.max_eq_right (Nat.le_min.2 ⟨first, last⟩)]

/-- The number of the page lies between one and the last page. -/
theorem current_bounds :
    let cursor := compute settings total page size
    1 ≤ cursor.current.toNat ∧ cursor.current.toNat ≤ cursor.lastPage.toNat := by
  intro cursor
  have last : 1 ≤ cursor.lastPage.toNat :=
    (isLeast_pageCount (normalSize_pos settings size)).1.1
  have current : cursor.current.toNat = _ := toNat_current settings total page size
  rw [current]
  exact ⟨Nat.le_max_left _ _, Nat.max_le.2 ⟨last, Nat.min_le_right _ _⟩⟩

/-- There is a page before exactly when the page is not the first, and its number is one less. -/
theorem toNat_previous :
    let cursor := compute settings total page size
    cursor.previous.map UInt64.toNat
      = if 1 < cursor.current.toNat then some (cursor.current.toNat - 1) else none := by
  intro cursor
  change (if 1 < cursor.current then some (cursor.current - 1) else none).map _ = _
  have greater : 1 < cursor.current ↔ 1 < cursor.current.toNat := UInt64.lt_iff_toNat_lt
  by_cases later : 1 < cursor.current
  · rw [if_pos later, if_pos (greater.1 later), Option.map_some,
      UInt64.toNat_sub_of_le _ _ (UInt64.le_of_lt later)]
    rfl
  · rw [if_neg later, if_neg fun more => later (greater.2 more)]
    rfl

/-- There is a page after exactly when the page is not the last, and its number is one more. -/
theorem toNat_next :
    let cursor := compute settings total page size
    cursor.next.map UInt64.toNat
      = if cursor.current.toNat < cursor.lastPage.toNat then some (cursor.current.toNat + 1)
        else none := by
  intro cursor
  change (if cursor.current < cursor.lastPage then some (cursor.current + 1) else none).map _ = _
  by_cases before : cursor.current < cursor.lastPage
  · have smaller := UInt64.lt_iff_toNat_lt.1 before
    have bound := cursor.lastPage.toNat_lt
    rw [if_pos before, if_pos smaller, Option.map_some, UInt64.toNat_add]
    -- the number after is at most the last page, which is a word
    exact congrArg some (Nat.mod_eq_of_lt (Nat.lt_of_le_of_lt smaller bound))
  · rw [if_neg before, if_neg fun less => before (UInt64.lt_iff_toNat_lt.2 less)]
    rfl

/-- The rows before the page are counted without overflow. -/
theorem toNat_offset_compute :
    let cursor := compute settings total page size
    cursor.offset.toNat = (cursor.current.toNat - 1) * cursor.pageSize.toNat := by
  intro cursor
  have bounds := current_bounds settings total page size
  have fewer : (cursor.current.toNat - 1) * cursor.pageSize.toNat < max total.toNat 1 :=
    rows_before_lt (normalSize_pos settings size) bounds.2
  have word : max total.toNat 1 < 2 ^ 64 := Nat.max_lt.2 ⟨total.toNat_lt, by decide⟩
  exact toNat_offset bounds.1 rfl (Nat.lt_trans fewer word)

/-- The window of the page leaves out the rows before it and takes a page. -/
theorem window_compute :
    let cursor := compute settings total page size
    cursor.window = .ok { skip := some cursor.offset, take := some cursor.pageSize } := by
  intro cursor
  have offset : cursor.offset.toNat = _ := toNat_offset_compute settings total page size
  have bound : (cursor.current.toNat - 1) * cursor.pageSize.toNat < UInt64.size := by
    rw [← offset]
    exact cursor.offset.toNat_lt
  rw [window, Window.ofPage, if_pos bound, ← offset, UInt64.ofNat_toNat]

end Cursor

namespace Page

/-- A request whose size parameter holds no positive integer is answered in pages of the usual
size. -/
theorem size_of_not_positive {page : Page}
    (negative : ∀ value ∈ page.params.find? page.settings.pageSizeParam, ∀ number,
      Text.readInt64 (Text.trim value.toList) = .ok number → number ≤ 0) :
    page.size = Cursor.normalSize page.settings 0 := by
  rw [size, askedSize, Params.intOr]
  cases found : page.params.find? page.settings.pageSizeParam with
  | none => exact Cursor.normalSize_toInt64 page.settings
  | some value =>
    cases read : Text.readInt64 (Text.trim value.toList) with
    | error fault =>
      simp only [read]
      exact Cursor.normalSize_toInt64 page.settings
    | ok number =>
      have refused : number ≤ 0 := negative value found number read
      have zero : (0 : Int64) ≤ 0 := Int64.le_refl 0
      simp only [read, Cursor.normalSize, if_pos refused, if_pos zero]

/-- The size, the number, the neighbours and the window of every page are those of exact arithmetic,
whatever the number of rows, the parameters and the settings are. -/
theorem cursor_exact (page : Page) :
    let cursor := page.cursor
    let size := cursor.pageSize.toNat
    let last := cursor.lastPage.toNat
    let current := cursor.current.toNat
    let usual := page.settings.pageSize.toNat
    let greatest := page.settings.maxPageSize.toNat
    let total := page.total.toNat
    (1 ≤ size ∧ size ≤ max 1 greatest)
      ∧ ((∀ value ∈ page.params.find? page.settings.pageSizeParam, ∀ number,
            Text.readInt64 (Text.trim value.toList) = .ok number → number ≤ 0) →
          size = max 1 (min usual greatest))
      ∧ IsLeast {number : Nat | 1 ≤ number ∧ total ≤ number * size} last
      ∧ (1 ≤ current ∧ current ≤ last)
      ∧ cursor.previous.map UInt64.toNat = (if 1 < current then some (current - 1) else none)
      ∧ cursor.next.map UInt64.toNat = (if current < last then some (current + 1) else none)
      ∧ cursor.offset.toNat = (current - 1) * size
      ∧ cursor.offset.toNat < max total 1
      ∧ let window : Window := { skip := some cursor.offset, take := some cursor.pageSize }
        cursor.window = .ok window
          ∧ (∀ query : Select, (page.apply query).value = { query with window })
          ∧ ∀ {Q : Type} [QueryBuilder Q] (query : Q), (page.apply query).value
              = QueryBuilder.take (QueryBuilder.skip query cursor.offset) cursor.pageSize := by
  obtain ⟨all, params, settings, cursor, rfl⟩ := page
  let page : Page := { total := all, params, settings }
  intro cursor size last current usual greatest total
  have normal : size = _ := Cursor.toNat_normalSize settings page.askedSize
  have offset : cursor.offset.toNat = (current - 1) * size :=
    Cursor.toNat_offset_compute settings all _ page.askedSize
  have bounds : 1 ≤ current ∧ current ≤ last :=
    Cursor.current_bounds settings all _ page.askedSize
  refine ⟨⟨?least, ?greatest⟩, fun negative => ?usual, ?last, bounds, ?previous, ?next, offset,
    ?rows, ?window, fun query => rfl, fun query => rfl⟩
  case least =>
    rw [normal]
    exact Nat.le_max_left _ _
  case greatest =>
    rw [normal]
    exact Nat.max_le.2 ⟨Nat.le_max_left _ _,
      Nat.le_trans (Nat.min_le_right _ _) (Nat.le_max_right _ _)⟩
  case usual =>
    have zero : (0 : Int64) ≤ 0 := Int64.le_refl 0
    change page.size.toNat = _
    rw [size_of_not_positive negative, Cursor.toNat_normalSize, if_pos zero]
  case last => exact Cursor.isLeast_pageCount (Cursor.normalSize_pos settings page.askedSize)
  case previous => exact Cursor.toNat_previous settings all _ page.askedSize
  case next => exact Cursor.toNat_next settings all _ page.askedSize
  case rows =>
    rw [offset]
    exact Cursor.rows_before_lt (Cursor.normalSize_pos settings page.askedSize) bounds.2
  case window => exact Cursor.window_compute settings all _ page.askedSize

end Page

end Listing
