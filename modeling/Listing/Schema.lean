import Listing.Diagnostics
import Listing.Entries
import Listing.Error
import Listing.Text.Words
import Listing.Value

/-!
# Schemas of records

A schema names a record and says of what kind its fields are. Fields are known by the canonical
spelling of their names, so `created_at` and `CreatedAt` are one field. The kind of a field decides
how the text of a parameter becomes a value: only fields of truth values can refuse a text, and a
field that the schema does not know takes any text and leaves an event.
-/
namespace Listing

/-- The kind of a field. -/
inductive FieldKind where
  /-- A text. -/
  | string
  /-- A truth value. -/
  | bool
  /-- A number. -/
  | number
  /-- A date or a point in time. -/
  | date
  deriving DecidableEq, Repr

namespace FieldKind

/-- The name of a kind in documents. -/
def name : FieldKind → String
  | string => "string"
  | bool => "bool"
  | number => "number"
  | date => "date"

/-- The kind of an exact name. -/
def ofName? (text : String) : Option FieldKind :=
  [string, bool, number, date].find? fun kind => kind.name == text

end FieldKind

/-- A record with the kinds of its fields. -/
structure Schema where
  /-- The name of the record. -/
  name : String
  /-- The kinds, under the canonical spellings of the names. -/
  fields : Registry FieldKind := []

namespace Schema

/-- Declare a field; a second declaration replaces the kind. -/
def declare (schema : Schema) (field : String) (kind : FieldKind) : Schema :=
  { schema with fields := schema.fields.register (Text.canonicalName field) kind }

/-- Declare several fields in order. -/
def declareAll (schema : Schema) (fields : List (String × FieldKind)) : Schema :=
  fields.foldl (fun schema field => schema.declare field.1 field.2) schema

/-- The kind of a field. -/
def kind? (schema : Schema) (field : String) : Option FieldKind :=
  schema.fields.find? (Text.canonicalName field)

/-- Whether a field is a date or a point in time. -/
def isTemporal (schema : Schema) (field : String) : Bool := schema.kind? field == some .date

/-- The number of fields. -/
def size (schema : Schema) : Nat := schema.fields.length

/-- Whether there is no field. -/
def isEmpty (schema : Schema) : Bool := schema.fields.isEmpty

variable {schema : Schema}

/-- A declaration changes what is known under its canonical spelling, and under no other. -/
theorem kind?_declare (field name : String) (kind : FieldKind) :
    (schema.declare field kind).kind? name
      = if Text.canonicalName name = Text.canonicalName field then some kind
        else schema.kind? name :=
  Registry.find?_register

/-- What a schema says of a field depends on its canonical spelling. -/
theorem kind?_congr {field name : String}
    (same : Text.canonicalName name = Text.canonicalName field) :
    schema.kind? name = schema.kind? field :=
  congrArg schema.fields.find? same

end Schema

/-- The truth value of one of its spellings. -/
def parseBool (text : String) : Option Bool :=
  if ["1", "t", "T", "TRUE", "true", "True"].contains text then some true
  else if ["0", "f", "F", "FALSE", "false", "False"].contains text then some false
  else none

/-- A column as the date in it. -/
def truncateToDate (column : String) : String := "DATE(" ++ column ++ ")"

/-! ## Texts of parameters -/

/-- The value of a parameter's text for a field of a schema. -/
def Schema.coerce (schema : Schema) (field text : String) : Journal (Except Cause Value) :=
  match schema.kind? field with
  | some .bool =>
    match parseBool text with
    | some value => pure (.ok (.bool value))
    | none => pure (.error (.notBoolean field text))
  | some _ => pure (.ok (.text text))
  | none => do
    Journal.note (.fieldUnknown schema.name (Text.canonicalName field))
    return .ok (.text text)

/-- The value of a parameter's text for a field; without a schema every text stays a text. -/
def coerce (schema : Option Schema) (field text : String) : Journal (Except Cause Value) :=
  match schema with
  | some schema => schema.coerce field text
  | none => pure (.ok (.text text))

end Listing
