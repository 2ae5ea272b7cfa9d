import Listing.Json.Lexeme

/-!
# Reading JSON documents

Readers take a value from the front of a text and return the text after it. A list or an object may
stand inside another down to a fixed depth; a document that nests deeper is refused.
-/
namespace Listing.Json

open Text (Reader readWord)

/-- Read items with commas between them up to a closing character, one item at least. The number
bounds the items; a text has no more items than characters. -/
def readItems {α : Type} (close : Char) (item : Reader α) : Nat → Reader (List α)
  | 0, _ => none
  | bound + 1, cs => do
    let (first, rest) ← item cs
    match skipSpace rest with
    | [] => none
    | c :: more =>
      if c = close then some ([first], more)
      else if c = ',' then do
        let (others, tail) ← readItems close item bound more
        some (first :: others, tail)
      else none

/-- Read items with commas between them up to a closing character. -/
def readListed {α : Type} (close : Char) (item : Reader α) : Reader (List α) := fun cs =>
  match skipSpace cs with
  | [] => none
  | c :: rest =>
    if c = close then some ([], rest) else readItems close item (rest.length + 1) (c :: rest)

/-- Read a name, a colon and a value. -/
def readMember {α : Type} (name : Reader String) (value : Reader α) : Reader (String × α) :=
  fun cs => do
    let (found, rest) ← name (skipSpace cs)
    match skipSpace rest with
    | ':' :: rest =>
      let (given, rest) ← value rest
      some ((found, given), rest)
    | _ => none

/-- Read a value that is neither a list nor an object. -/
def readScalar : Reader Json := fun cs =>
  match skipSpace cs with
  | [] => none
  | c :: rest =>
    if c = 'n' then (readWord ['u', 'l', 'l'] rest).map fun found => (null, found.2)
    else if c = 't' then (readWord ['r', 'u', 'e'] rest).map fun found => (bool true, found.2)
    else if c = 'f' then
      (readWord ['a', 'l', 's', 'e'] rest).map fun found => (bool false, found.2)
    else if c = '\x22' then
      (readText (c :: rest)).map fun found => (text found.1, found.2)
    else do
      let (lexeme, tail) ← readNumber (c :: rest)
      let value ← lexeme.value
      some (value, tail)

/-- Read a value that holds at most so many levels of lists and objects. -/
def readValue : Nat → Reader Json
  | 0, cs => readScalar cs
  | depth + 1, cs =>
    match skipSpace cs with
    | '[' :: rest =>
      (readListed ']' (readValue depth) rest).map fun found => (array found.1, found.2)
    | '\x7b' :: rest =>
      (readListed '\x7d' (readMember readText (readValue depth)) rest).map fun found =>
        (ofMembers found.1, found.2)
    | other => readScalar other

/-- The number of levels that a document may have. -/
def greatestDepth : Nat := 127

/-- Read a whole document: a value with nothing but space around it. -/
def readWhole? {α : Type} (reader : Reader α) (document : String) : Option α :=
  match reader document.toList with
  | some (value, rest) => if (skipSpace rest).isEmpty then some value else none
  | none => none

/-- The value of a document, when it is one. -/
def parse (document : String) : Option Json := readWhole? (readValue greatestDepth) document

/-- Pass over a value that is neither a list nor an object; its number may be of any size and its
text may hold halves of pairs of code units. -/
def skipScalar : Reader Unit := fun cs =>
  match skipSpace cs with
  | [] => none
  | c :: rest =>
    if c = 'n' then readWord ['u', 'l', 'l'] rest
    else if c = 't' then readWord ['r', 'u', 'e'] rest
    else if c = 'f' then readWord ['a', 'l', 's', 'e'] rest
    else if c = '\x22' then (textPieces rest).map fun found => ((), found.2)
    else (readNumber (c :: rest)).map fun found => ((), found.2)

/-- Pass over a name. -/
def skipName : Reader String
  | '\x22' :: rest => (textPieces rest).map fun found => ("", found.2)
  | _ => none

/-- Pass over a value that holds at most so many levels of lists and objects. -/
def skipLevels : Nat → Reader Unit
  | 0, cs => skipScalar cs
  | depth + 1, cs =>
    match skipSpace cs with
    | '[' :: rest =>
      (readListed ']' (skipLevels depth) rest).map fun found => ((), found.2)
    | '\x7b' :: rest =>
      (readListed '\x7d' (readMember skipName (skipLevels depth)) rest).map fun found =>
        ((), found.2)
    | other => skipScalar other

/-- Pass over a value of any depth. -/
def skipValue : Reader Unit := fun cs => skipLevels cs.length cs

end Listing.Json
