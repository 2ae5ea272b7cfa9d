import Listing.Toml.Lexeme
import Listing.Toml.Number

/-!
# Reading TOML documents

A document is a list of lines: pairs of a key and a value, and headers. The pairs before the first
header are entries of the document itself; the pairs after a header are entries of the table that
the header names. A document is refused when a line is not well formed or when a name would get
two meanings.
-/
namespace Listing.Toml

open Text (Reader readWord)

/-- Read the items of a list after its opening bracket. The number bounds the items. -/
def readItems (item : Reader Item) : Nat → Reader (List Item)
  | 0, _ => none
  | bound + 1, cs =>
    match skipBlank cs with
    | ']' :: rest => some ([], rest)
    | other => do
      let (first, rest) ← item other
      match skipBlank rest with
      | ',' :: more =>
        let (others, tail) ← readItems item bound more
        some (first :: others, tail)
      | ']' :: more => some ([first], more)
      | _ => none

/-- Read a key, an equals sign and a value. -/
def readPair (item : Reader Item) : Reader (Key × Item) := fun cs => do
  let (key, rest) ← readKey cs
  let (_, rest) ← readWord ['='] rest
  let (value, rest) ← item (skipSpace rest)
  some ((key, value), rest)

/-- Read the pairs of a table between braces, one at least, up to the closing brace. The number
bounds the pairs. -/
def readPairs (item : Reader Item) : Nat → Reader (List (Key × Item))
  | 0, _ => none
  | bound + 1, cs => do
    let (first, rest) ← readPair item cs
    match skipSpace rest with
    | ',' :: more =>
      let (others, tail) ← readPairs item bound more
      some (first :: others, tail)
    | '\x7d' :: more => some ([first], more)
    | _ => none

/-- Read a table between braces after the opening one. -/
def readBraced (item : Reader Item) : Reader Item := fun cs =>
  match skipSpace cs with
  | '\x7d' :: rest => some (.table .complete [], rest)
  | other => do
    let (pairs, rest) ← readPairs item other.length other
    let table ← pairs.foldlM Table.put []
    some (.table .complete table, rest)

/-- Read a value that is neither a list nor a table. -/
def readScalar : Reader Item := fun cs =>
  match cs with
  | [] => none
  | c :: _ =>
    if c = '\x22' ∨ c = '\x27' then (readText cs).map fun found => (.string found.1, found.2)
    else if c = 't' then
      (readWord ['t', 'r', 'u', 'e'] cs).map fun found => (.boolean true, found.2)
    else if c = 'f' then
      (readWord ['f', 'a', 'l', 's', 'e'] cs).map fun found => (.boolean false, found.2)
    else
      match readMoment cs with
      | some found => some found
      | none => readNumber cs

/-- Read a value that holds at most so many levels of lists and tables. -/
def readItem : Nat → Reader Item
  | 0, cs => readScalar cs
  | depth + 1, cs =>
    match cs with
    | '[' :: rest =>
      (readItems (readItem depth) (rest.length + 1) rest).map fun found =>
        (.array found.1, found.2)
    | '\x7b' :: rest => readBraced (readItem depth) rest
    | _ => readScalar cs

/-- A line of a document that says something. -/
inductive Line where
  /-- A key and its value. -/
  | pair (key : Key) (item : Item)
  /-- The header of a table. -/
  | table (key : Key)
  /-- The header of an element of a list of tables. -/
  | element (key : Key)

/-- Read a header after its opening bracket. -/
def readHeader : Reader Line
  | '[' :: rest => do
    let (key, rest) ← readKey rest
    let (_, rest) ← readWord [']', ']'] rest
    some (.element key, rest)
  | cs => do
    let (key, rest) ← readKey cs
    let (_, rest) ← readWord [']'] rest
    some (.table key, rest)

/-- Read a line up to its end. -/
def readLine : Reader Line := fun cs => do
  let (line, rest) ←
    match cs with
    | '[' :: more => readHeader more
    | _ => (readPair (readItem greatestDepth) cs).map fun ((key, item), rest) =>
      (.pair key item, rest)
  let rest ← endLine rest
  some (line, rest)

/-- Read the lines of a document. The number bounds them. -/
def readAll : Nat → List Char → Option (List Line)
  | 0, _ => none
  | bound + 1, cs =>
    match skipBlank cs with
    | [] => some []
    | other => do
      let (line, rest) ← readLine other
      let lines ← readAll bound rest
      some (line :: lines)

/-- A header with the pairs after it. -/
abbrev Section := Line × List (Key × Item)

/-- The pairs before the first header, and the headers with the pairs after each. -/
def sections : List Line → List (Key × Item) × List Section
  | [] => ([], [])
  | .pair key item :: rest =>
    let (own, later) := sections rest
    ((key, item) :: own, later)
  | header :: rest =>
    let (own, later) := sections rest
    ([], (header, own) :: later)

/-- Add what follows a header to a document. -/
def addSection (document : Table) (part : Section) : Option Table :=
  match part.1 with
  | .table key => document.changeAt (Table.declare key.name part.2) key.path
  | .element key => document.changeAt (Table.extend key.name part.2) key.path
  | .pair key item => document.put (key, item)

/-- The table that lines make. -/
def tableOf (lines : List Line) : Option Table := do
  let (own, later) := sections lines
  let document ← own.foldlM Table.put []
  later.foldlM addSection document

/-- Read a document; a byte order mark in front of it is passed over. -/
def parse (text : String) : Option Table := do
  let cs :=
    match text.toList with
    | '\uFEFF' :: rest => rest
    | cs => cs
  let lines ← readAll (cs.length + 1) cs
  tableOf lines

end Listing.Toml
