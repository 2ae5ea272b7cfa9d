import Listing.Diagnostics
import Listing.Params
import Listing.Query
import Listing.Settings

/-!
# Pages

A page is a part of a result of known size. The page and its size are asked for by parameters of
the request. Whatever is asked for, the size is brought between one and the greatest size, and the
page between the first and the last; the first page is there even if it is empty.
-/
namespace Listing

/-- A place in a result that is cut into pages. -/
structure Cursor where
  /-- The number of the page, counted from one. -/
  current : UInt64
  /-- The number of the page before, unless this is the first. -/
  previous : Option UInt64
  /-- The number of the page after, unless this is the last. -/
  next : Option UInt64
  /-- The number of rows on a full page. -/
  pageSize : UInt64
  /-- The number of the last page. -/
  lastPage : UInt64
  deriving DecidableEq, Repr

namespace Cursor

/-- The size of pages when a size is asked for. -/
def normalSize (settings : Settings) (asked : Int64) : UInt64 :=
  let size := if asked ≤ 0 then settings.pageSize else asked.toUInt64
  max (min size settings.maxPageSize) 1

/-- The number of pages that rows fill, at least one. -/
def pageCount (rows size : UInt64) : UInt64 :=
  max (if rows % size = 0 then rows / size else rows / size + 1) 1

/-- The place in a result when a page and a size are asked for. -/
def compute (settings : Settings) (total : UInt64) (page size : Int64) : Cursor :=
  let pageSize := normalSize settings size
  let lastPage := pageCount total pageSize
  let current := if page ≤ 0 then 1 else min page.toUInt64 lastPage
  { current, pageSize, lastPage
    previous := if 1 < current then some (current - 1) else none
    next := if current < lastPage then some (current + 1) else none }

/-- The place in a result that parameters ask for. -/
def ofParams (settings : Settings) (total : UInt64) (params : Params) : Cursor :=
  compute settings total (params.intOr settings.pageParam 0)
    (params.intOr settings.pageSizeParam settings.pageSize.toInt64)

/-- The number of rows before the page. -/
def offset (cursor : Cursor) : UInt64 := (cursor.current - 1) * cursor.pageSize

/-- The window of the page. -/
def window (cursor : Cursor) : Except Overflow Window :=
  Window.ofPage cursor.current cursor.pageSize

end Cursor

/-- A page of a result. The place of the page is kept beside what it is found from, so whatever
binds the page anew has to find the place again. -/
structure Page where
  /-- The number of rows of the whole result. -/
  total : UInt64
  /-- The parameters of the request. -/
  params : Params := Params.empty
  /-- The settings. -/
  settings : Settings := {}
  /-- The place of the page in the result. -/
  cursor : Cursor := Cursor.ofParams settings total params
  /-- The place is the one that the parameters ask for. -/
  cursor_eq : cursor = Cursor.ofParams settings total params := by rfl

/-- A change of what a page is bound to. -/
inductive Rebinding where
  /-- The page follows another request. -/
  | params (params : Params)
  /-- The page follows other settings. -/
  | settings (settings : Settings)

namespace Page

/-- Bind a page anew; either part keeps the other and the place is found again. -/
def rebind (page : Page) : Rebinding → Page
  | .params params =>
    { page with
      params
      cursor := Cursor.ofParams page.settings page.total params
      cursor_eq := rfl }
  | .settings settings =>
    { page with
      settings
      cursor := Cursor.ofParams settings page.total page.params
      cursor_eq := rfl }

/-- Cut the page out of the result of a query. -/
def apply {Q : Type} [QueryBuilder Q] (page : Page) (query : Q) : Journal Q := do
  let cursor := page.cursor
  Journal.note (.pageApplied cursor.current cursor.pageSize cursor.lastPage)
  return QueryBuilder.take (QueryBuilder.skip query cursor.offset) cursor.pageSize

/-- A body of one's own, built from the place of the page, the total and the rows. -/
def bodyWith {α β : Type} (page : Page) (rows : α) (build : Cursor → UInt64 → α → β) : β :=
  build page.cursor page.total rows

end Page

end Listing
