import Listing.Text.Numeral
import Listing.Toml.Basic

/-!
# Words of TOML text

Space, comments, texts and keys. Texts stand between quotes or apostrophes; between quotes a
backslash begins an escape. Three quotes or apostrophes begin a text of several lines, in which
every line break counts as a single line feed, a line break at the very start does not count, and a
backslash at the end of a line removes the space around the line break. Up to two quotes may stand
directly in front of the three that end such a text, and belong to it.
-/
namespace Listing.Toml

open Text (Reader hexValue numberOf)

/-- Whether a character is a space or a tab. -/
def isSpace (c : Char) : Bool := c == ' ' || c == '\t'

/-- The text after the space in front of it. -/
def skipSpace (cs : List Char) : List Char := cs.dropWhile isSpace

/-- Whether a character may stand in comments and texts: a tab, or no control. -/
def isPlain (c : Char) : Bool := c == '\t' || (0x20 ≤ c.toNat && c.toNat != 0x7F)

/-- Whether a line break stands in front of a text. -/
def atLineBreak : List Char → Bool
  | '\n' :: _ => true
  | '\r' :: '\n' :: _ => true
  | _ => false

/-- The text after a line break in front of it; without one there is nothing to skip. -/
def skipLineBreak : List Char → List Char
  | '\n' :: rest => rest
  | '\r' :: '\n' :: rest => rest
  | cs => cs

/-- The text after space, line breaks and comments; the first argument says whether the text
begins within a comment. -/
def skipFrom : Bool → List Char → List Char
  | _, [] => []
  | inComment, c :: rest =>
    if atLineBreak (c :: rest) then skipFrom false rest
    else if inComment then if isPlain c then skipFrom true rest else c :: rest
    else if isSpace c || c == '\n' then skipFrom false rest
    else if c = '#' then skipFrom true rest
    else c :: rest

/-- The text after the space, line breaks and comments in front of it. -/
def skipBlank (cs : List Char) : List Char := skipFrom false cs

/-- The text after the end of a line, before which space and a comment may stand. -/
def endLine (cs : List Char) : Option (List Char) :=
  let rest :=
    match skipSpace cs with
    | '#' :: comment => comment.dropWhile isPlain
    | other => other
  if rest.isEmpty || atLineBreak rest then some (skipLineBreak rest) else none

/-- Read a character spelled by a number of hexadecimal digits. -/
def codeEscape (length : Nat) (cs : List Char) : Option (Char × Nat) :=
  let digits := cs.take length
  let code := numberOf 16 digits
  if digits.length = length ∧ digits.all (fun c => (hexValue c).isSome) ∧ code.isValidChar then
    some (Char.ofNat code, length + 1)
  else none

/-- The character that an escape after a backslash spells, and the length of the escape. -/
def readEscape : List Char → Option (Char × Nat)
  | [] => none
  | c :: rest =>
    if c = '\x22' ∨ c = '\\' then some (c, 1)
    else if c = 'b' then some ('\x08', 1)
    else if c = 't' then some ('\t', 1)
    else if c = 'n' then some ('\n', 1)
    else if c = 'f' then some ('\x0c', 1)
    else if c = 'r' then some ('\r', 1)
    else if c = 'u' then codeEscape 4 rest
    else if c = 'U' then codeEscape 8 rest
    else none

/-- A reader's result with a character in front. -/
def prepend (c : Char) (found : Option (List Char × List Char)) :
    Option (List Char × List Char) :=
  found.map fun found => (c :: found.1, found.2)

/-- Read the rest of a text after its opening quote. The number counts characters that belong to
an escape already read. -/
def readQuoted : Nat → Reader (List Char)
  | _, [] => none
  | escaped + 1, _ :: rest => readQuoted escaped rest
  | 0, c :: rest =>
    if c = '\x22' then some ([], rest)
    else if c = '\\' then
      match readEscape rest with
      | none => none
      | some (named, length) => prepend named (readQuoted length rest)
    else if isPlain c then prepend c (readQuoted 0 rest)
    else none

/-- Read the rest of a text after its opening apostrophe. -/
def readLiteral : Reader (List Char)
  | [] => none
  | c :: rest =>
    if c = '\x27' then some ([], rest)
    else if isPlain c then prepend c (readLiteral rest)
    else none

/-- The length of a line break and all the space and line breaks around it; none, when there is no
line break before another character. -/
def lineJoint (cs : List Char) : Option Nat :=
  let rest := skipSpace cs
  if atLineBreak rest then some (cs.length - (skipSpaceAndLines rest).length) else none
where
  /-- The text after space and line breaks. -/
  skipSpaceAndLines : List Char → List Char
    | [] => []
    | c :: rest =>
      if isSpace c || atLineBreak (c :: rest) then skipSpaceAndLines rest
      else if c = '\n' then skipSpaceAndLines rest
      else c :: rest

/-- The number of marks at the front of a text. -/
def runLength (mark : Char) (cs : List Char) : Nat := (cs.takeWhile (· == mark)).length

/-- Read the rest of a text of several lines. Quotes or apostrophes mark its end; only between
quotes are there escapes. The number counts characters that belong to an escape already read. -/
def readLines (mark : Char) : Nat → Reader (List Char)
  | _, [] => none
  | escaped + 1, _ :: rest => readLines mark escaped rest
  | 0, c :: rest =>
    let run := runLength mark (c :: rest)
    if 5 < run then none
    else if 2 < run then some (List.replicate (run - 3) mark, rest.drop (run - 1))
    else if c = '\\' ∧ mark = '\x22' then
      match lineJoint rest with
      | some length => readLines mark length rest
      | none =>
        match readEscape rest with
        | none => none
        | some (named, length) => prepend named (readLines mark length rest)
    else if c = '\n' ∨ isPlain c then prepend c (readLines mark 0 rest)
    else if atLineBreak (c :: rest) then readLines mark 0 rest
    else none

/-- Read a text of one line. -/
def readLineText : Reader String
  | '\x22' :: rest => (readQuoted 0 rest).map fun found => (String.ofList found.1, found.2)
  | '\x27' :: rest => (readLiteral rest).map fun found => (String.ofList found.1, found.2)
  | _ => none

/-- Read a text of one line or several. -/
def readText (cs : List Char) : Option (String × List Char) :=
  match cs with
  | [] => none
  | mark :: _ =>
    if 3 ≤ runLength mark cs then
      (readLines mark 0 (skipLineBreak (cs.drop 3))).map fun found =>
        (String.ofList found.1, found.2)
    else readLineText cs

/-- Whether a character may stand in a key without quotes. -/
def isBare (c : Char) : Bool := c.isAlphanum || c == '_' || c == '-'

/-- Read a part of a key. -/
def readKeyPart (cs : List Char) : Option (String × List Char) :=
  match cs.takeWhile isBare with
  | [] => readLineText cs
  | found => some (String.ofList found, cs.dropWhile isBare)

/-- Read the parts of a key with dots between them, at most as many as the number says. -/
def readKeyParts : Nat → Reader Key
  | 0, _ => none
  | bound + 1, cs => do
    let (part, rest) ← readKeyPart (skipSpace cs)
    match skipSpace rest with
    | '.' :: more =>
      let (key, tail) ← readKeyParts bound more
      some ({ key with path := part :: key.path }, tail)
    | other => some (⟨[], part⟩, other)

/-- The number of parts that a key may have, and of levels of values in a document. -/
def greatestDepth : Nat := 79

/-- Read a key, with the space around it. -/
def readKey : Reader Key := readKeyParts greatestDepth

end Listing.Toml
