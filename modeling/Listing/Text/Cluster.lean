import Listing.Text.ClusterTable
import Listing.Text.PrintTable

/-!
# Clusters of characters

A reader takes some sequences of characters for one: a letter with its accents, a syllable block,
a pair of regional indicators, an emoji sequence. A text is cut into these clusters by looking at
each character and at what the characters before it in its cluster allow.
-/
namespace Listing.Text

/-- How a character behaves at the borders of a cluster. -/
inductive ClusterClass where
  /-- The carriage return, which only a line feed joins. -/
  | carriageReturn
  /-- The line feed. -/
  | lineFeed
  /-- A character that stands alone. -/
  | control
  /-- A mark that joins what stands before it. -/
  | extend
  /-- The joiner of emoji sequences, which also joins what stands before it. -/
  | joiner
  /-- One half of a flag. -/
  | regional
  /-- A character that what follows joins. -/
  | prepend
  /-- A mark of its own width that joins what stands before it. -/
  | spacing
  /-- A leading consonant of a syllable block. -/
  | leading
  /-- A vowel of a syllable block. -/
  | vowel
  /-- A trailing consonant of a syllable block. -/
  | trailing
  /-- A syllable block without a trailing consonant. -/
  | openSyllable
  /-- A syllable block with a trailing consonant. -/
  | closedSyllable
  /-- Every other character. -/
  | plain
  deriving DecidableEq, Repr

/-- The class of a character. -/
def clusterClass (c : Char) : ClusterClass :=
  let code := c.toNat
  if code = 0xD then .carriageReturn
  else if code = 0xA then .lineFeed
  else if code < 0x20 then .control
  else if code < 0x7F then .plain
  else if code = 0x200D then .joiner
  else if within clusterControlRanges c then .control
  else if within combiningRanges c ∨ (0x1F3FB ≤ code ∧ code ≤ 0x1F3FF) then .extend
  else if 0x1F1E6 ≤ code ∧ code ≤ 0x1F1FF then .regional
  else if (0x1100 ≤ code ∧ code ≤ 0x115F) ∨ (0xA960 ≤ code ∧ code ≤ 0xA97C) then .leading
  else if within vowelRanges c then .vowel
  else if (0x11A8 ≤ code ∧ code ≤ 0x11FF) ∨ (0xD7CB ≤ code ∧ code ≤ 0xD7FB) then .trailing
  else if 0xAC00 ≤ code ∧ code ≤ 0xD7A3 then
    if (code - 0xAC00) % 28 = 0 then .openSyllable else .closedSyllable
  else if within prependRanges c then .prepend
  else if within spacingMarkRanges c then .spacing
  else .plain

/-- The mark that keeps the consonants around it from forming a conjunct. -/
def nonJoiner : Char := '\u200C'

/-- How far an emoji sequence has come. -/
inductive EmojiProgress where
  /-- There is none. -/
  | none
  /-- A pictograph and any marks after it. -/
  | pictograph
  /-- A pictograph, any marks and a joiner. -/
  | joined
  deriving DecidableEq, Repr

/-- How far a conjunct of consonants has come. -/
inductive ConjunctProgress where
  /-- There is none. -/
  | none
  /-- A consonant and any marks after it, none of them a linker. -/
  | consonant
  /-- A consonant and marks after it, a linker among them. -/
  | linked
  deriving DecidableEq, Repr

/-- What the characters read so far allow the next one to join. -/
structure ClusterState where
  /-- The class of the last character. -/
  last : ClusterClass
  /-- Whether the last characters are an odd number of regional indicators. -/
  oddRegional : Bool
  /-- The emoji sequence that ends with the last character. -/
  emoji : EmojiProgress
  /-- The conjunct that ends with the last character. -/
  conjunct : ConjunctProgress
  deriving DecidableEq, Repr

namespace ClusterState

/-- The state after a character that follows nothing. -/
def start : ClusterState := ⟨.control, false, .none, .none⟩

/-- The state after one more character. -/
def advance (state : ClusterState) (c : Char) : ClusterState where
  last := clusterClass c
  oddRegional := clusterClass c == .regional && !state.oddRegional
  emoji :=
    if c.toNat < 0x80 then .none
    else if within pictographRanges c then .pictograph
    else if state.emoji = .pictograph ∧ clusterClass c = .extend then .pictograph
    else if state.emoji = .pictograph ∧ clusterClass c = .joiner then .joined
    else .none
  conjunct :=
    if c.toNat < 0x80 then .none
    else if within conjunctConsonantRanges c then .consonant
    else if state.conjunct = .none then .none
    else if within conjunctLinkerRanges c then .linked
    else if c = nonJoiner then .none
    else if clusterClass c = .extend ∨ clusterClass c = .joiner then state.conjunct
    else .none

/-- Whether a syllable block goes on with a character of a class. -/
def syllableGoesOn : ClusterClass → ClusterClass → Bool
  | .leading, .leading | .leading, .vowel | .leading, .openSyllable | .leading, .closedSyllable
  | .openSyllable, .vowel | .openSyllable, .trailing | .vowel, .vowel | .vowel, .trailing
  | .closedSyllable, .trailing | .trailing, .trailing => true
  | _, _ => false

/-- Whether the next character belongs to the cluster of the last one. -/
def joins (state : ClusterState) (c : Char) : Bool :=
  let next := clusterClass c
  let alone (kind : ClusterClass) : Bool :=
    kind == .control || kind == .carriageReturn || kind == .lineFeed
  if state.last = .carriageReturn ∧ next = .lineFeed then true
  else if alone state.last || alone next then false
  else if syllableGoesOn state.last next then true
  else if next = .extend ∨ next = .joiner ∨ next = .spacing then true
  else if state.last = .prepend then true
  else if state.conjunct = .linked ∧ within conjunctConsonantRanges c then true
  else if state.emoji = .joined ∧ within pictographRanges c then true
  else next = .regional ∧ state.oddRegional

end ClusterState

/-- The rest of the cluster under way, and the clusters after it. -/
def clustersAfter (state : ClusterState) : List Char → List Char × List (List Char)
  | [] => ([], [])
  | c :: rest =>
    let (more, others) := clustersAfter (state.advance c) rest
    if state.joins c then (c :: more, others) else ([], (c :: more) :: others)

/-- The clusters of a text, in order. -/
def clusters (cs : List Char) : List (List Char) := (clustersAfter .start cs).2

end Listing.Text
