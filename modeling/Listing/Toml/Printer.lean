import Listing.Toml.Basic

/-!
# Writing TOML texts

A text is written in the plainest of the forms that need no escape: between quotes, between
apostrophes, between three quotes, between three apostrophes. A text that every form would have to
escape is written between quotes with escapes, between three of them when it has several lines.
-/
namespace Listing.Toml

/-- Whether a character can only be written as an escape. -/
def needsEscape (c : Char) : Bool :=
  c != '\t' && c != '\n' && (c.toNat < 0x20 || c.toNat == 0x7F)

/-- The length of the longest run of a mark, after a run already seen. -/
def longestRun (mark : Char) : Nat → List Char → Nat
  | run, [] => run
  | run, c :: rest =>
    if c = mark then longestRun mark (run + 1) rest else max run (longestRun mark 0 rest)

/-- The forms of a text. -/
inductive TextForm where
  /-- Between quotes. -/
  | quotes
  /-- Between apostrophes. -/
  | apostrophes
  /-- Between three quotes. -/
  | threeQuotes
  /-- Between three apostrophes. -/
  | threeApostrophes
  deriving DecidableEq, Repr

/-- The form in which a text is written. -/
def TextForm.of (cs : List Char) : TextForm :=
  let escapes := cs.any needsEscape
  let severalLines := cs.contains '\n'
  let backslash := cs.contains '\\'
  let quoteRun := longestRun '\x22' 0 cs
  let apostropheRun := longestRun '\x27' 0 cs
  if !escapes && !backslash && !severalLines && quoteRun == 0 then quotes
  else if !escapes && !severalLines && apostropheRun == 0 then apostrophes
  else if !escapes && !backslash && quoteRun ≤ 2 then threeQuotes
  else if !escapes && apostropheRun ≤ 2 then threeApostrophes
  else if severalLines then threeQuotes
  else quotes

/-- Four hexadecimal digits of a number. -/
def fourDigits (number : Nat) : List Char :=
  [12, 8, 4, 0].map fun shift => (Nat.digitChar ((number >>> shift) % 16)).toUpper

/-- A character between quotes. -/
def escapeChar (c : Char) : List Char :=
  if c = '\x22' ∨ c = '\\' then ['\\', c]
  else if c = '\x08' then ['\\', 'b']
  else if c = '\t' then ['\\', 't']
  else if c = '\n' then ['\\', 'n']
  else if c = '\x0c' then ['\\', 'f']
  else if c = '\r' then ['\\', 'r']
  else if needsEscape c then '\\' :: 'u' :: fourDigits c.toNat
  else [c]

/-- The characters between three quotes, after so many quotes in a row. A line feed stands for
itself, and so do two quotes in a row; the third is escaped. -/
def escapeLines : Nat → List Char → List Char
  | _, [] => []
  | run, c :: rest =>
    if c = '\n' then c :: escapeLines 0 rest
    else if c = '\x22' then
      if run < 2 then c :: escapeLines (run + 1) rest else escapeChar c ++ escapeLines 0 rest
    else escapeChar c ++ escapeLines 0 rest

/-- A text as it is written. A form of three marks begins with a line break when the text has
several lines. -/
def writeText (text : String) : String :=
  let cs := text.toList
  let opening (mark : Char) : List Char :=
    List.replicate 3 mark ++ if cs.contains '\n' then ['\n'] else []
  String.ofList <|
    match TextForm.of cs with
    | .quotes => '\x22' :: cs.flatMap escapeChar ++ ['\x22']
    | .apostrophes => '\x27' :: cs ++ ['\x27']
    | .threeQuotes => opening '\x22' ++ escapeLines 0 cs ++ List.replicate 3 '\x22'
    | .threeApostrophes => opening '\x27' ++ cs ++ List.replicate 3 '\x27'

/-- A line of a document. -/
def writePair (key value : String) : String := key ++ " = " ++ value ++ "\n"

end Listing.Toml
