import Listing.Binary64.Layout
import Listing.Settings
import Listing.Text.Split
import Listing.Toml.Printer
import Listing.Toml.Reader

/-!
# Settings in TOML

A TOML document gives settings as entries; what it does not give keeps its default, and entries of
other names are passed over. The first entry with a value of the wrong type is reported. Settings
that are read are checked.
-/
namespace Listing

/-- Numbers in messages: positional at every size, whole numbers with `.0`. -/
def Binary64.Layout.pointed : Binary64.Layout :=
  { Binary64.Layout.plain with keepsFraction := true }

namespace Toml

/-- A value as messages about its type show it. -/
def Item.describe : Item → String
  | string value => "string " ++ Text.quoted value
  | integer value => "integer \x60" ++ toString value ++ "\x60"
  | float value => "floating point \x60" ++ value.write .pointed ++ "\x60"
  | boolean value => "boolean \x60" ++ toString value ++ "\x60"
  | array _ | tables _ => "sequence"
  | table .. | moment => "map"

/-- The name of a value's type. -/
def Item.typeName : Item → String
  | string _ => "string"
  | integer _ => "integer"
  | float _ => "float"
  | boolean _ => "boolean"
  | moment => "datetime"
  | array _ => "array"
  | tables _ => "array of tables"
  | table .. => "table"

/-- Why a value does not fit. -/
inductive Mismatch where
  /-- The value has another type than the one expected. -/
  | wrongType (found : Item) (expected : String)
  /-- An integer is negative where none may be. -/
  | negative (value : Int)
  /-- A name is none of those known. -/
  | unknownName (name : String) (known : List String)
  /-- The value can hold no name. -/
  | noName
  /-- A table that should hold one name holds none or several. -/
  | nameCount (none : Bool)
  /-- What stands under a name is not empty. -/
  | notEmpty (kind : String)
  /-- What stands under a name cannot be empty. -/
  | notTable (found : Item)

/-- The wording of a mismatch. -/
def Mismatch.message : Mismatch → String
  | wrongType found expected => "invalid type: " ++ found.describe ++ ", expected " ++ expected
  | negative value =>
    "invalid value: " ++ (Item.integer value).describe ++ ", expected u64"
  | unknownName name known =>
    "unknown variant \x60" ++ name ++ "\x60, expected one of "
      ++ ", ".intercalate (known.map fun name => "\x60" ++ name ++ "\x60")
  | noName => "wanted string or table"
  | nameCount true => "wanted exactly 1 element, found 0 elements"
  | nameCount false => "wanted exactly 1 element, more than 1 element"
  | notEmpty kind => "expected empty " ++ kind
  | notTable found => "expected table, found " ++ found.typeName

/-- The unsigned integer of a value. -/
def Item.word64 : Item → Except Mismatch UInt64
  | integer value => if value < 0 then .error (.negative value) else .ok (UInt64.ofNat value.toNat)
  | other => .error (.wrongType other "u64")

/-- The text of a value. -/
def Item.text : Item → Except Mismatch String
  | string value => .ok value
  | other => .error (.wrongType other "a string")

/-- Check that what stands under a name is an empty table or list. -/
def Item.isEmptyTable : Item → Except Mismatch Unit
  | table _ entries => if entries.isEmpty then .ok () else .error (.notEmpty "table")
  | array items => if items.isEmpty then .ok () else .error (.notEmpty "table")
  | tables elements => if elements.isEmpty then .ok () else .error (.notEmpty "array")
  | other => .error (.notTable other)

/-- The dialect of a name. -/
def dialectOf (name : String) : Except Mismatch Dialect :=
  match Dialect.ofName? name with
  | some dialect => .ok dialect
  | none => .error (.unknownName name ["postgresql", "mysql", "sqlite"])

/-- The dialect that a value names: by a text, or by a table with the name over an empty table. -/
def Item.dialect : Item → Except Mismatch Dialect
  | string name => dialectOf name
  | table _ [(name, item)] => do
    let dialect ← dialectOf name
    item.isEmptyTable
    return dialect
  | table _ entries => .error (.nameCount entries.isEmpty)
  | _ => .error .noName

end Toml

namespace Settings

/-- Take an entry of a document into settings. -/
def takeEntry (settings : Settings) (entry : String × Toml.Item) :
    Except Toml.Mismatch Settings :=
  let item := entry.2
  if entry.1 = "max_page_size" then
    item.word64.map fun size => { settings with maxPageSize := size }
  else if entry.1 = "page_size" then
    item.word64.map fun size => { settings with pageSize := size }
  else if entry.1 = "page_param" then
    item.text.map fun name => { settings with pageParam := name }
  else if entry.1 = "page_size_param" then
    item.text.map fun name => { settings with pageSizeParam := name }
  else if entry.1 = "sort_param" then
    item.text.map fun name => { settings with sortParam := name }
  else if entry.1 = "dialect" then
    item.dialect.map fun dialect => { settings with dialect }
  else .ok settings

/-- The settings that the entries of a document give, after the check. -/
def ofToml (document : Toml.Table) : Except Cause Settings :=
  match document.foldlM takeEntry {} with
  | .error mismatch => .error (.invalidDocument mismatch.message)
  | .ok settings => settings.validated

/-- The TOML document of settings. -/
def printToml (settings : Settings) : String :=
  Toml.writePair "max_page_size" (toString settings.maxPageSize.toNat)
    ++ Toml.writePair "page_size" (toString settings.pageSize.toNat)
    ++ Toml.writePair "page_param" (Toml.writeText settings.pageParam)
    ++ Toml.writePair "page_size_param" (Toml.writeText settings.pageSizeParam)
    ++ Toml.writePair "sort_param" (Toml.writeText settings.sortParam)
    ++ Toml.writePair "dialect" (Toml.writeText settings.dialect.name)

end Settings

end Listing
