import Listing.Text.CaseTable

/-!
# Upper and lower case

The full case mappings of characters and texts, without any language's own rules. One character
may have several as its image. The only context that counts is that of a capital sigma, which is
written `ς` in lower case at the end of a word and `σ` everywhere else.
-/
namespace Listing.Text

/-- The image of a code point under mapping runs. -/
def imageIn (runs : List (Nat × Nat × Nat × Nat)) (code : Nat) : Option Nat :=
  runs.findSome? fun (first, last, step, image) =>
    if first ≤ code ∧ code ≤ last ∧ (code - first) % step = 0 then some (image + (code - first))
    else none

/-- The image of a character beyond ASCII under expansions and runs, itself when it has none. -/
def imageOf (expansions : List (Nat × List Nat)) (runs : List (Nat × Nat × Nat × Nat))
    (c : Char) : List Char :=
  match expansions.lookup c.toNat with
  | some codes => codes.map Char.ofNat
  | none =>
    match imageIn runs c.toNat with
    | some code => [Char.ofNat code]
    | none => [c]

/-- The lower case of a character on its own. -/
def lowerOf (c : Char) : List Char :=
  if c.toNat < 0x80 then [c.toLower] else imageOf lowerExpansions lowerRuns c

/-- The upper case of a character. -/
def upperOf (c : Char) : List Char :=
  if c.toNat < 0x80 then [c.toUpper] else imageOf upperExpansions upperRuns c

/-- Whether a character is a letter that has case. -/
def isCased (c : Char) : Bool :=
  if c.toNat < 0x80 then c.isAlpha else within casedRanges c

/-- Whether a character is passed over in the search for the letters around a sigma. -/
def isCaseIgnorable (c : Char) : Bool :=
  if c.toNat < 0x80 then c == '\x27' || c == '.' || c == ':' || c == '^' || c == '\x60'
  else within caseIgnorableRanges c

/-- Whether the first character that is not passed over has case. -/
def beginsCased : List Char → Bool
  | [] => false
  | c :: rest => if isCaseIgnorable c then beginsCased rest else isCased c

/-- The lower case of a text that follows other text, of which it matters only whether its last
character that is not passed over has case. -/
def lowerAfter (casedBefore : Bool) : List Char → List Char
  | [] => []
  | c :: rest =>
    let image :=
      if c = 'Σ' then [if casedBefore && !beginsCased rest then 'ς' else 'σ'] else lowerOf c
    image ++ lowerAfter (if isCaseIgnorable c then casedBefore else isCased c) rest

/-- The lower case of a text. -/
def lower (cs : List Char) : List Char := lowerAfter false cs

/-- The upper case of a text. -/
def upper (cs : List Char) : List Char := cs.flatMap upperOf

/-- The lower case of a string. -/
def lowercase (text : String) : String := String.ofList (lower text.toList)

end Listing.Text
