import Listing.Proofs.WordBorders
import Listing.Schema

/-!
# Canonical spellings of canonical spellings

A canonical spelling has no separators, so only capitals and digits tell where its words end. Some
borders cannot be told by them: `a_b` has the canonical spelling `AB`, which is one word, so its
canonical spelling is `Ab`, and a schema that knows `a_b` does not know `AB`. Main statements:
`canonicalName_canonicalName_iff` for the borders that can be told, and `Schema.knows_canonical_iff`
for what a schema knows.
-/
namespace Listing

namespace Text

/-- Whether there is a letter and it has case. -/
def hasCase (letter : Option Char) : Bool := letter.any fun c => HasCase c

/-- Whether capitals in front of two words tell where the first ends: before a letter with case it
ends with a digit, or with such a letter that is not alone or stands before two. -/
def KeepsBorder (word next : List Char) : Prop :=
  hasCase next.head? → word.getLast?.any Char.isDigit
    ∨ hasCase word.getLast? ∧ (word.tail ≠ [] ∨ hasCase next.tail.head?)

instance (word next : List Char) : Decidable (KeepsBorder word next) :=
  inferInstanceAs (Decidable (_ → _ ∨ _ ∧ (_ ∨ _)))

/-- The last letter of a stretch with a capital in front is a digit if it was one, and if it has
case, in upper case when it is the first and in lower case otherwise. -/
theorem Stretch.clusters_last {c : Char} {tail : List Char} (stretch : Stretch (c :: tail)) :
    let spelled := (capitalOf c :: tail.map smallOf).getLast (List.cons_ne_nil _ _)
    isLowerCluster [spelled] = (hasCase (c :: tail).getLast? && !tail.isEmpty)
      ∧ isUpperCluster [spelled] = (hasCase (c :: tail).getLast? && tail.isEmpty)
      ∧ spelled.isDigit = (c :: tail).getLast?.any Char.isDigit := by
  cases tail with
  | nil =>
    have own := stretch.simple c List.mem_cons_self
    obtain ⟨upper, lower⟩ := own.clusters_capital
    exact ⟨by simp [lower], by simp [upper, hasCase], by simp [own.isDigit_forms]⟩
  | cons next tail =>
    have nonempty := List.cons_ne_nil next tail
    have own := stretch.tail.simple _ (List.getLast_mem nonempty)
    obtain ⟨upper, lower⟩ := own.clusters_small
    have last : (capitalOf c :: (next :: tail).map smallOf).getLast (List.cons_ne_nil _ _)
        = smallOf ((next :: tail).getLast nonempty) :=
      List.getLast_map (f := smallOf) (l := next :: tail) (h := by simp)
    rw [List.getLast?_cons_cons, List.getLast?_eq_some_getLast nonempty, last]
    exact ⟨by simp [lower, hasCase], by simp [upper], by simp [own.isDigit_forms]⟩

/-- A word ends before a capital after a small letter, after a digit, and after a capital that a
small letter follows. -/
theorem wordEnds_capital {d : Char} (own : Simple d) (cased : HasCase d) (spelled : Char)
    (text : List Char) :
    wordEnds [spelled] (singles (capitalOf d :: text))
      = (isLowerCluster [spelled] || spelled.isDigit
        || isUpperCluster [spelled] && text.head?.any fun c => isLowerCluster [c]) := by
  have capital : isUpperCluster [capitalOf d] = true := by
    rw [own.clusters_capital.1, decide_eq_true cased]
  have noDigit : (capitalOf d).isDigit = false := by
    rw [own.isDigit_forms.1, Bool.eq_false_iff]
    exact fun digit => not_hasCase_of_isDigit digit cased
  cases text with
  | nil => simp [singles, wordEnds, isDigitCluster, capital, noDigit]
  | cons c rest => simp [singles, wordEnds, isDigitCluster, capital, noDigit]

/-- The letter after a capital is small if it belongs to the same word and has case. -/
theorem isLower_second {letters : List Char} (simple : ∀ c ∈ letters, Simple c)
    {words : List (List Char)} (each : ∀ word ∈ words, Stretch word ∧ word ≠ []) :
    ((letters.map smallOf ++ words.flatMap capitalize).head?.any fun c => isLowerCluster [c])
      = hasCase letters.head? := by
  cases letters with
  | nil =>
    cases words with
    | nil => rfl
    | cons word words =>
      obtain ⟨stretch, nonempty⟩ := each word List.mem_cons_self
      obtain ⟨first, tail, rfl⟩ := List.exists_cons_of_ne_nil nonempty
      rw [List.flatMap_cons, capitalize_of_simple stretch.simple]
      exact (stretch.simple first List.mem_cons_self).clusters_capital.2
  | cons c rest => exact (simple c List.mem_cons_self).clusters_small.2

/-- Capitals in front of two words of which the second begins with a letter that has case tell where
the first ends exactly when they keep the border. -/
theorem wordEnds_joined_iff {c d : Char} {tail rest : List Char} (word : Stretch (c :: tail))
    (next : Stretch (d :: rest)) {words : List (List Char)}
    (each : ∀ word ∈ words, Stretch word ∧ word ≠ []) (cased : HasCase d) :
    wordEnds [(capitalOf c :: tail.map smallOf).getLast (List.cons_ne_nil _ _)]
        (singles (capitalOf d :: (rest.map smallOf ++ words.flatMap capitalize))) = true
      ↔ KeepsBorder (c :: tail) (d :: rest) := by
  obtain ⟨lower, upper, digit⟩ := word.clusters_last
  have begins : hasCase (d :: rest).head? = true := decide_eq_true cased
  rw [wordEnds_capital (next.simple d List.mem_cons_self) cased, lower, upper, digit,
    isLower_second next.tail.simple each, KeepsBorder, begins, List.tail_cons, List.tail_cons]
  by_cases single : tail = []
  · simp [single]
  · simp [single, or_comm]

/-- A word with a capital in front is left as it is where a word begins, and in the rest of a word
if its first letter has no case, together with what follows it if that is left as it is. -/
theorem respell_capitalized_iff (begins : Bool) {c : Char} {tail : List Char}
    (stretch : Stretch (c :: tail)) (rest : List Char) :
    respell begins (capitalOf c :: tail.map smallOf ++ rest)
        = capitalOf c :: tail.map smallOf ++ rest
      ↔ (begins = true ∨ ¬HasCase c)
        ∧ respell (wordEnds [(capitalOf c :: tail.map smallOf).getLast (List.cons_ne_nil _ _)]
            (singles rest)) rest = rest := by
  have front : (if begins then capitalOf c else smallOf c) = capitalOf c
      ↔ begins = true ∨ ¬HasCase c := by
    cases begins <;> simp [HasCase, eq_comm]
  rw [stretch.respell (.inl rfl), List.cons_append, List.cons.injEq, List.append_cancel_left_eq,
    front]

/-- Words with capitals in front are left as they are when their borders are kept, and when the
first of them may begin where they do. -/
theorem respell_joined_iff (begins : Bool) {word : List Char} {more : List (List Char)}
    (each : ∀ other ∈ word :: more, Stretch other ∧ other ≠ []) :
    respell begins ((word :: more).flatMap capitalize) = (word :: more).flatMap capitalize
      ↔ (begins = true ∨ hasCase word.head? = false) ∧ (word :: more).IsChain KeepsBorder := by
  induction more generalizing begins word with
  | nil =>
    obtain ⟨⟨stretch, nonempty⟩, -⟩ := List.forall_mem_cons.1 each
    obtain ⟨c, tail, rfl⟩ := List.exists_cons_of_ne_nil nonempty
    rw [List.flatMap_cons, capitalize_of_simple stretch.simple,
      respell_capitalized_iff begins stretch]
    simp [respell, hasCase]
  | cons next more ih =>
    obtain ⟨⟨stretch, nonempty⟩, later⟩ := List.forall_mem_cons.1 each
    obtain ⟨c, tail, rfl⟩ := List.exists_cons_of_ne_nil nonempty
    obtain ⟨⟨second, nonempty⟩, others⟩ := List.forall_mem_cons.1 later
    obtain ⟨d, rest, rfl⟩ := List.exists_cons_of_ne_nil nonempty
    have border : wordEnds [(capitalOf c :: tail.map smallOf).getLast (List.cons_ne_nil _ _)]
            (singles (((d :: rest) :: more).flatMap capitalize)) = true
          ∨ hasCase (d :: rest).head? = false
        ↔ KeepsBorder (c :: tail) (d :: rest) := by
      rw [List.flatMap_cons, capitalize_of_simple second.simple]
      by_cases cased : HasCase d
      · rw [List.cons_append, wordEnds_joined_iff stretch second others cased]
        simp [hasCase, cased]
      · simp [hasCase, cased, KeepsBorder]
    rw [List.flatMap_cons, capitalize_of_simple stretch.simple,
      respell_capitalized_iff begins stretch, ih _ later, border, List.isChain_cons_cons]
    simp [hasCase]

/-- The words of a name of simple letters are stretches of such letters. -/
theorem stretch_of_mem_words {name : List Char} (simple : ∀ c ∈ name, Simple c) :
    ∀ word ∈ words name, Stretch word ∧ word ≠ [] := by
  intro word member
  rw [words, clusters_of_plain fun c member => (simple c member).plain, List.mem_filter] at member
  obtain ⟨first, more, stretches⟩ := exists_wordStretches (singles name)
  refine ⟨(stretch_wordStretches simple stretches).2 word (stretches ▸ member.1), ?_⟩
  simpa using member.2

/-- With a capital in front the letters of a word of simple letters are simple. -/
theorem simple_of_mem_capitalize {word : List Char} (simple : ∀ c ∈ word, Simple c) :
    ∀ c ∈ capitalize word, Simple c := by
  cases word with
  | nil => nofun
  | cons c rest =>
    obtain ⟨own, others⟩ := List.forall_mem_cons.1 simple
    rw [capitalize_of_simple simple]
    refine List.forall_mem_cons.2 ⟨own.capital, fun other member => ?_⟩
    obtain ⟨letter, later, rfl⟩ := List.mem_map.1 member
    exact (others letter later).small

/-- The canonical spelling of a name of simple letters is its own canonical spelling exactly when
all borders between its words are kept. -/
theorem canonicalName_canonicalName_iff {name : String} (simple : ∀ c ∈ name.toList, Simple c) :
    canonicalName (canonicalName name) = canonicalName name
      ↔ (words name.toList).IsChain KeepsBorder := by
  have each := stretch_of_mem_words simple
  have letters : ∀ c ∈ (canonicalName name).toList, Simple c := by
    intro c member
    rw [canonicalName, String.toList_ofList] at member
    obtain ⟨word, among, inside⟩ := List.mem_flatMap.1 member
    exact simple_of_mem_capitalize (each word among).1.simple c inside
  rw [canonicalName_eq_respell letters, canonicalName, String.toList_ofList, String.ofList_inj]
  cases split : words name.toList with
  | nil => simp [respell]
  | cons word more =>
    rw [split] at each
    rw [respell_joined_iff true each]
    simp

end Text

namespace Schema

open Text

/-- Every schema knows a field by its canonical spelling exactly when that is its own canonical
spelling. -/
theorem kind?_canonicalName_iff (name : String) :
    (∀ schema : Schema, schema.kind? (canonicalName name) = schema.kind? name)
      ↔ canonicalName (canonicalName name) = canonicalName name := by
  constructor
  · intro alike
    have known := alike (declare ⟨"", []⟩ name .string)
    rw [kind?_declare, kind?_declare, if_pos rfl] at known
    by_contra other
    rw [if_neg other] at known
    contradiction
  · exact fun same schema => kind?_congr same

/-- Every schema knows a field of simple letters by its canonical spelling exactly when the borders
between the words of the field are kept. -/
theorem knows_canonical_iff {name : String} (simple : ∀ c ∈ name.toList, Simple c) :
    (∀ schema : Schema, schema.kind? (canonicalName name) = schema.kind? name)
      ↔ (words name.toList).IsChain KeepsBorder := by
  rw [kind?_canonicalName_iff, canonicalName_canonicalName_iff simple]

/-- A name with a word of one letter before a longer one, with a digit before a letter, and with a
word that has no case. -/
theorem knows_canonical_mixed :
    (∀ c ∈ "x_ids_2b_語".toList, Simple c)
      ∧ ∀ schema : Schema, schema.kind? "XIds2B語" = schema.kind? "x_ids_2b_語" := by
  have simple : ∀ c ∈ "x_ids_2b_語".toList, Simple c := by
    have looked : "x_ids_2b_語".toList.all (fun c => Simple c) = true := by decide +kernel
    simpa using looked
  refine ⟨simple, ?_⟩
  have spelled : canonicalName "x_ids_2b_語" = "XIds2B語" := by decide +kernel
  rw [← spelled]
  exact (knows_canonical_iff simple).2 (by decide +kernel)

/-- A schema that knows `a_b` stores it as `AB`, and does not know it by this spelling. -/
theorem knows_canonical_ne_single_letters :
    (declare ⟨"r", []⟩ "a_b" .bool).fields = [("AB", .bool)]
      ∧ (declare ⟨"r", []⟩ "a_b" .bool).kind? "a_b" = some .bool
      ∧ (declare ⟨"r", []⟩ "a_b" .bool).kind? (canonicalName "a_b") = none := by
  decide +kernel

end Schema

end Listing
