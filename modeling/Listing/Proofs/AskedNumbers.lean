import Listing.Proofs.PageArithmetic

/-!
# Numbers of pages asked for in digits

A request that asks for a page beyond the last, or for pages above the greatest size, gets the last
page, or pages of the greatest size, and the more it asks for the more it gets. That ends where the
signed 64-bit range does: a greater number is read as none, so the first page is shown and in pages
of the usual size. Main statements: `toNat_current_asked` and `toNat_pageSize_asked` for a single
number, and `asked_decimal` for all that a number in digits does to a page.
-/
namespace Listing

namespace Page

open Text (Decimal)

/-- The page that the same request leads to with another text for one of its parameters. -/
def asking (page : Page) (name text : String) : Page :=
  page.rebind (.params (page.params.insert name text))

variable (page : Page) {text : String} {number : Nat}

/-- The size of pages that is asked for in digits is brought between one and the greatest size; a
number above the signed 64-bit range asks for the usual size. -/
theorem toNat_pageSize_asked (decimal : Decimal text number) (positive : 0 < number) :
    (page.asking page.settings.pageSizeParam text).cursor.pageSize.toNat
      = max 1 (min (if number < 2 ^ 63 then number else page.settings.pageSize.toNat)
          page.settings.maxPageSize.toNat) := by
  change (Cursor.normalSize page.settings (Params.intOr _ _ _)).toNat = _
  rw [Params.intOr_insert_decimal _ _ decimal]
  by_cases small : number < 2 ^ 63
  · have value : (Int64.ofNat number).toInt = number := Int64.toInt_ofNat_of_lt small
    have above : ¬ Int64.ofNat number ≤ 0 := by
      rw [Int64.le_iff_toInt_le, value]
      change ¬ (number : Int) ≤ 0
      omega
    rw [if_pos small, if_pos small, Cursor.toNat_normalSize, if_neg above, value, Int.toNat_natCast]
  · have zero : (0 : Int64) ≤ 0 := Int64.le_refl 0
    rw [if_neg small, if_neg small, Cursor.normalSize_toInt64, Cursor.toNat_normalSize, if_pos zero]

variable (distinct : page.settings.pageParam ≠ page.settings.pageSizeParam)

include distinct

/-- Asking for another page changes neither the size of pages nor the number of the last one. -/
theorem sizes_asked (text : String) :
    (page.asking page.settings.pageParam text).cursor.pageSize = page.size
      ∧ (page.asking page.settings.pageParam text).cursor.lastPage = page.lastPage := by
  have size : (page.params.insert page.settings.pageParam text).intOr
      page.settings.pageSizeParam page.settings.pageSize.toInt64 = page.askedSize :=
    Params.intOr_insert_of_ne distinct.symm _
  exact ⟨congrArg (Cursor.normalSize page.settings) size,
    congrArg (fun asked => Cursor.pageCount page.total (Cursor.normalSize page.settings asked))
      size⟩

/-- The page that is asked for in digits is shown if it is there, and else the last one; a number
above the signed 64-bit range asks for the first. -/
theorem toNat_current_asked (decimal : Decimal text number) (positive : 0 < number) :
    (page.asking page.settings.pageParam text).cursor.current.toNat
      = if number < 2 ^ 63 then min number page.lastPage.toNat else 1 := by
  have last := page.lastPage_bounds.1
  have current : (page.asking page.settings.pageParam text).cursor.current.toNat = _ :=
    Cursor.toNat_current page.settings page.total _ _
  rw [current, Params.intOr_insert_decimal _ _ decimal]
  change max 1 (min _ (page.asking page.settings.pageParam text).cursor.lastPage.toNat) = _
  rw [(sizes_asked page distinct text).2]
  by_cases small : number < 2 ^ 63
  · rw [if_pos small, if_pos small, Int64.toInt_ofNat_of_lt small, Int.toNat_natCast]
    omega
  · rw [if_neg small, if_neg small]
    change max 1 (min 0 page.lastPage.toNat) = 1
    omega

/-- A number in digits is brought into range, as the page or as its size, if it fits 64 signed bits;
a greater one counts as if it had not been asked for. -/
theorem asked_decimal (decimal : Decimal text number) (positive : 0 < number) :
    let turned (text : String) := (page.asking page.settings.pageParam text).cursor
    let resized (text : String) := (page.asking page.settings.pageSizeParam text).cursor
    let last := (turned text).lastPage.toNat
    let usual := page.settings.pageSize.toNat
    let greatest := page.settings.maxPageSize.toNat
    ((turned text).lastPage = page.lastPage ∧ (turned text).pageSize = page.size)
      ∧ (turned text).current.toNat = (if number < 2 ^ 63 then min number last else 1)
      ∧ (resized text).pageSize.toNat
        = max 1 (min (if number < 2 ^ 63 then number else usual) greatest)
      ∧ ((turned text).current.toNat = min number last ↔ number < 2 ^ 63 ∨ last = 1)
      ∧ ∀ more larger, Decimal more larger → number ≤ larger → larger < 2 ^ 63 →
          (turned text).current.toNat ≤ (turned more).current.toNat
            ∧ (resized text).pageSize.toNat ≤ (resized more).pageSize.toNat := by
  intro turned resized last usual greatest
  obtain ⟨samePages, sameLast⟩ := sizes_asked page distinct text
  have final : last = page.lastPage.toNat := congrArg UInt64.toNat sameLast
  have first : 1 ≤ last := final ▸ page.lastPage_bounds.1
  have current : (turned text).current.toNat = if number < 2 ^ 63 then min number last else 1 :=
    final ▸ toNat_current_asked page distinct decimal positive
  have size : (resized text).pageSize.toNat = _ := toNat_pageSize_asked page decimal positive
  refine ⟨⟨sameLast, samePages⟩, current, size, ?clamped, fun more larger other grows small => ?_⟩
  case clamped =>
    rw [current]
    split <;> omega
  have below : number < 2 ^ 63 := Nat.lt_of_le_of_lt grows small
  have above : 0 < larger := Nat.lt_of_lt_of_le positive grows
  have next : (turned more).current.toNat = _ := toNat_current_asked page distinct other above
  have wider : (resized more).pageSize.toNat = _ := toNat_pageSize_asked page other above
  rw [current, next, size, wider, if_pos below, if_pos small, if_pos below, if_pos small, final]
  omega

omit distinct

/-- Of five hundred rows a page and a size that are too great lead to the last page and the greatest
size, and a number above the signed range to the first page and the usual size. -/
theorem asked_decimal_beyond :
    let page : Page := { total := 500 }
    let turned (text : String) := (page.asking "page" text).cursor
    let resized (text : String) := (page.asking "page_size" text).cursor
    page.settings.pageParam ≠ page.settings.pageSizeParam
      ∧ Decimal "0300" 300 ∧ Decimal "9223372036854775808" (2 ^ 63)
      ∧ (turned "0300").current.toNat = 25 ∧ (resized "0300").pageSize.toNat = 200
      ∧ (turned "9223372036854775808").current.toNat = 1
      ∧ (resized "9223372036854775808").pageSize.toNat = 20 := by
  intro page turned resized
  have distinct : page.settings.pageParam ≠ page.settings.pageSizeParam := by decide
  have inside : Decimal "0300" 300 := ⟨List.all_eq_true.1 (by decide), by decide, by decide⟩
  have outside : Decimal "9223372036854775808" (2 ^ 63) :=
    ⟨List.all_eq_true.1 (by decide), by decide, by decide⟩
  have last : (turned "0300").lastPage = 25 := by decide +kernel
  obtain ⟨-, current, size, -⟩ := asked_decimal page distinct inside (by decide)
  obtain ⟨-, first, usual, -⟩ := asked_decimal page distinct outside (by decide)
  rw [if_pos (by decide)] at current size
  rw [if_neg (Nat.lt_irrefl _)] at first usual
  refine ⟨distinct, inside, outside, ?_, size, first, usual⟩
  rw [current, last]
  rfl

/-- The least number above the signed range leads to the first of twenty-five pages, and as a size to
the usual twenty rows where two hundred are allowed. -/
theorem asked_decimal_ne_clamped :
    let page : Page := { total := 500 }
    let turned := (page.asking page.settings.pageParam "9223372036854775808").cursor
    let resized := (page.asking page.settings.pageSizeParam "9223372036854775808").cursor
    page.settings.pageParam ≠ page.settings.pageSizeParam
      ∧ toString (2 ^ 63) = "9223372036854775808"
      ∧ turned.lastPage = 25 ∧ turned.current = 1
      ∧ turned.current.toNat ≠ min (2 ^ 63) turned.lastPage.toNat
      ∧ resized.pageSize = 20
      ∧ resized.pageSize.toNat ≠ max 1 (min (2 ^ 63) page.settings.maxPageSize.toNat) := by
  decide +kernel

end Page

end Listing
