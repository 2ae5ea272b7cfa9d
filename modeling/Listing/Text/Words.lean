import Listing.Text.Cluster
import Listing.Text.LetterCase

/-!
# Words within a name

A name such as `created_at`, `createdAt` or `CreatedAt` is a list of words. Words end at an
underscore, a hyphen or a space, which belong to no word, and wherever the kind of character
changes: from a lower-case letter to a capital, between a digit and a letter, and before the last
capital of a run of capitals that a lower-case letter follows. Characters are counted in clusters,
so an accent never parts from its letter.

The canonical spelling of a name writes its words without separators, each with a capital first
character and all others in lower case.
-/
namespace Listing.Text

/-- Whether a cluster changes with case and is in lower case. -/
def isLowerCluster (cluster : List Char) : Bool :=
  upper cluster != lower cluster && cluster == lower cluster

/-- Whether a cluster changes with case and is in upper case. -/
def isUpperCluster (cluster : List Char) : Bool :=
  upper cluster != lower cluster && cluster == upper cluster

/-- Whether a cluster consists of the digits `0` to `9`. -/
def isDigitCluster (cluster : List Char) : Bool := cluster.all Char.isDigit

/-- Whether a cluster separates words and belongs to none. -/
def isWordSeparator (cluster : List Char) : Bool :=
  cluster == ['_'] || cluster == ['-'] || cluster == [' ']

/-- Whether a word ends between a cluster and the clusters after it. -/
def wordEnds (cluster : List Char) : List (List Char) → Bool
  | [] => false
  | next :: later =>
    (isLowerCluster cluster && (isUpperCluster next || isDigitCluster next))
      || (isUpperCluster cluster && isDigitCluster next)
      || (isDigitCluster cluster && (isUpperCluster next || isLowerCluster next))
      || (isUpperCluster cluster && isUpperCluster next
        && match later with
          | [] => false
          | after :: _ => isLowerCluster after)

/-- The stretches of clusters between word borders, the empty ones included. -/
def wordStretches : List (List Char) → List (List Char)
  | [] => [[]]
  | cluster :: rest =>
    if isWordSeparator cluster then [] :: wordStretches rest
    else if wordEnds cluster rest then cluster :: wordStretches rest
    else
      match wordStretches rest with
      | [] => [cluster]
      | stretch :: more => (cluster ++ stretch) :: more

/-- The words of a name, in order. -/
def words (name : List Char) : List (List Char) :=
  (wordStretches (clusters name)).filter fun word => !word.isEmpty

/-- A word with its first character in upper case and the others in lower case. -/
def capitalize : List Char → List Char
  | [] => []
  | c :: rest => upperOf c ++ lower rest

/-- The canonical spelling of a name. -/
def canonicalName (name : String) : String :=
  String.ofList ((words name.toList).flatMap capitalize)

end Listing.Text
