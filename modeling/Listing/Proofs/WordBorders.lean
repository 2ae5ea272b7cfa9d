import Listing.Proofs.SimpleLetters
import Mathlib.Data.List.Chain

/-!
# Words of simple letters

In a name of simple letters it can be read off letter by letter where its words end, and its
canonical spelling is the name without separators in which the letters that begin words are capitals
and all others small. Main statements: `canonicalName_eq_respell`, `stretch_wordStretches` for the
words of a name, and `Stretch.respell` for a word within one.
-/
namespace Listing.Text

/-! ## Borders between letters -/

/-- No word ends between two characters that stand together, whatever follows them. -/
def Sticks (first next : Char) : Prop := ∀ later, wordEnds [first] ([next] :: later) = false

/-- Neither of two characters is a digit while the other has case. -/
def Even (first next : Char) : Prop :=
  ¬(HasCase first ∧ next.isDigit) ∧ ¬(first.isDigit ∧ HasCase next)

/-- No word ends before the small form of a character, unless a digit meets a letter. -/
theorem sticks_small {first next : Char} (left : Simple first) (right : Simple next)
    (even : Even first next) :
    Sticks (capitalOf first) (smallOf next) ∧ Sticks (smallOf first) (smallOf next) := by
  obtain ⟨letter, digit⟩ := even
  constructor
  all_goals
    intro later
    simp only [wordEnds, isDigitCluster, left.clusters_capital, left.clusters_small,
      right.clusters_small, left.isDigit_forms, right.isDigit_forms, List.all_cons, List.all_nil,
      Bool.and_true]
    grind

/-- The canonical spelling of a name letter by letter: where a word begins its letter is a capital,
and separators are left out. -/
def respell (begins : Bool) : List Char → List Char
  | [] => []
  | c :: rest =>
    if isWordSeparator [c] then respell true rest
    else (if begins then capitalOf c else smallOf c) :: respell (wordEnds [c] (singles rest)) rest

/-- Letters between which no word ends are spelled as one word, or as the rest of one. -/
theorem respell_append (begins : Bool) {c : Char} {tail : List Char} (rest : List Char)
    (kept : ∀ other ∈ c :: tail, isWordSeparator [other] = false)
    (whole : (c :: tail).IsChain Sticks) :
    respell begins (c :: tail ++ rest)
      = (if begins then capitalOf c else smallOf c)
        :: (tail.map smallOf
          ++ respell (wordEnds [(c :: tail).getLast (List.cons_ne_nil c tail)] (singles rest))
              rest) := by
  have own := kept c List.mem_cons_self
  induction tail generalizing begins c with
  | nil => simp [respell, own]
  | cons next tail ih =>
    obtain ⟨sticks, later⟩ := List.isChain_cons_cons.1 whole
    have behind : wordEnds [c] (singles (next :: tail ++ rest)) = false := sticks _
    have same : respell false (next :: tail ++ rest) = _ :=
      ih false (fun other member => kept other (List.mem_cons_of_mem _ member)) later
        (kept next (by simp))
    rw [List.cons_append, respell, own, behind, same, List.getLast_cons_cons]
    simp

/-! ## Stretches -/

/-- Simple letters that make one word once those after the first are small. -/
structure Stretch (letters : List Char) : Prop where
  /-- The letters are simple. -/
  simple : ∀ c ∈ letters, Simple c
  /-- None of them separates words. -/
  kept : ∀ c ∈ letters, isWordSeparator [c] = false
  /-- No digit stands beside a letter that has case. -/
  even : letters.IsChain Even

/-- A letter in front of a stretch that no word ends before. -/
theorem Stretch.cons {c : Char} {letters : List Char} (stretch : Stretch letters)
    (simple : Simple c) (kept : isWordSeparator [c] = false)
    (even : ∀ next ∈ letters.head?, Even c next) : Stretch (c :: letters) where
  simple := List.forall_mem_cons.2 ⟨simple, stretch.simple⟩
  kept := List.forall_mem_cons.2 ⟨kept, stretch.kept⟩
  even := List.isChain_cons.2 ⟨even, stretch.even⟩

/-- The letters of a stretch after the first. -/
theorem Stretch.tail {c : Char} {letters : List Char} (stretch : Stretch (c :: letters)) :
    Stretch letters where
  simple := (List.forall_mem_cons.1 stretch.simple).2
  kept := (List.forall_mem_cons.1 stretch.kept).2
  even := stretch.even.tail

/-- No word ends in a stretch of which all letters but the first are small. -/
theorem Stretch.isChain_sticks {c first : Char} {tail : List Char} (stretch : Stretch (c :: tail))
    (form : first = capitalOf c ∨ first = smallOf c) :
    (first :: tail.map smallOf).IsChain Sticks := by
  induction tail generalizing c first with
  | nil => exact List.isChain_singleton first
  | cons next tail ih =>
    have own := stretch.simple c List.mem_cons_self
    have right := stretch.tail.simple next List.mem_cons_self
    obtain ⟨capital, small⟩ := sticks_small own right (List.isChain_cons_cons.1 stretch.even).1
    refine List.isChain_cons_cons.2 ⟨?_, ih stretch.tail (.inr rfl)⟩
    obtain rfl | rfl := form
    · exact capital
    · exact small

/-- A stretch of which all letters but the first are small is spelled as one word, or as the rest
of one. -/
theorem Stretch.respell {c first : Char} {tail : List Char} (stretch : Stretch (c :: tail))
    (form : first = capitalOf c ∨ first = smallOf c) (begins : Bool) (rest : List Char) :
    respell begins (first :: tail.map smallOf ++ rest)
      = (if begins then capitalOf c else smallOf c)
        :: (tail.map smallOf
          ++ respell (wordEnds [(first :: tail.map smallOf).getLast (List.cons_ne_nil _ _)]
              (singles rest)) rest) := by
  have own := stretch.simple c List.mem_cons_self
  have forms : isWordSeparator [first] = isWordSeparator [c] ∧ capitalOf first = capitalOf c
      ∧ smallOf first = smallOf c := by
    obtain rfl | rfl := form
    · exact ⟨own.isWordSeparator_forms.1, own.capitalOf_capitalOf, own.smallOf_capitalOf⟩
    · exact ⟨own.isWordSeparator_forms.2, own.capitalOf_smallOf, own.smallOf_smallOf⟩
  obtain ⟨separates, capital, small⟩ := forms
  have kept : ∀ other ∈ first :: tail.map smallOf, isWordSeparator [other] = false := by
    refine List.forall_mem_cons.2
      ⟨separates.trans (stretch.kept c List.mem_cons_self), fun other member => ?_⟩
    obtain ⟨letter, later, rfl⟩ := List.mem_map.1 member
    rw [(stretch.tail.simple letter later).isWordSeparator_forms.2]
    exact stretch.tail.kept letter later
  have again : (tail.map smallOf).map smallOf = tail.map smallOf := by
    rw [List.map_map]
    exact List.map_congr_left fun letter later => (stretch.tail.simple letter later).smallOf_smallOf
  rw [respell_append begins rest kept (stretch.isChain_sticks form), again, capital, small]

/-- There is at least one stretch. -/
theorem exists_wordStretches (clusters : List (List Char)) :
    ∃ first more, wordStretches clusters = first :: more := by
  cases clusters with
  | nil => exact ⟨[], [], rfl⟩
  | cons cluster rest =>
    rw [wordStretches]
    split
    · exact ⟨_, _, rfl⟩
    split
    · exact ⟨_, _, rfl⟩
    split
    · exact ⟨_, _, rfl⟩
    · exact ⟨_, _, rfl⟩

/-- The stretches of a text with one more character in front, by what the character does: separate
words, end one, or belong to the stretch after it. -/
theorem wordStretches_cons (c : Char) (rest : List Char) :
    ∃ first more, wordStretches (singles rest) = first :: more
      ∧ (isWordSeparator [c] = true ∧ wordStretches (singles (c :: rest)) = [] :: first :: more
        ∨ isWordSeparator [c] = false ∧ wordEnds [c] (singles rest) = true
          ∧ wordStretches (singles (c :: rest)) = [c] :: first :: more
        ∨ isWordSeparator [c] = false ∧ wordEnds [c] (singles rest) = false
          ∧ wordStretches (singles (c :: rest)) = (c :: first) :: more) := by
  obtain ⟨first, more, stretches⟩ := exists_wordStretches (singles rest)
  refine ⟨first, more, stretches, ?_⟩
  rw [singles, List.map_cons, ← singles, wordStretches, stretches]
  by_cases separates : isWordSeparator [c] = true
  · exact .inl ⟨separates, if_pos separates⟩
  rw [if_neg separates]
  rw [Bool.not_eq_true] at separates
  by_cases ends : wordEnds [c] (singles rest) = true
  · exact .inr (.inl ⟨separates, ends, if_pos ends⟩)
  · exact .inr (.inr ⟨separates, Bool.eq_false_iff.2 ends, if_neg ends⟩)

/-- Where no word ends after a simple letter, no digit meets a letter that has case. -/
theorem Simple.even_of_goesOn {c next : Char} {rest : List Char} (left : Simple c)
    (right : Simple next) (goesOn : wordEnds [c] (singles (next :: rest)) = false) :
    Even c next := by
  have leftCase := left.isUpper_or_isLower
  have rightCase := right.isUpper_or_isLower
  simp only [singles, List.map_cons, wordEnds, isDigitCluster, List.all_cons, List.all_nil,
    Bool.and_true] at goesOn
  constructor
  · rintro ⟨cased, digit⟩
    rw [decide_eq_true cased] at leftCase
    grind
  · rintro ⟨digit, cased⟩
    rw [decide_eq_true cased] at rightCase
    grind

/-- The stretches of a text of simple letters are stretches of such letters, and the first, if there
is a letter in it, begins the text. -/
theorem stretch_wordStretches {cs : List Char} (simple : ∀ c ∈ cs, Simple c)
    {first : List Char} {more : List (List Char)}
    (stretches : wordStretches (singles cs) = first :: more) :
    (∀ c ∈ first.head?, c ∈ cs.head?) ∧ ∀ word ∈ first :: more, Stretch word := by
  have empty : Stretch [] := ⟨nofun, nofun, List.isChain_nil⟩
  induction cs generalizing first more with
  | nil =>
    obtain ⟨rfl, rfl⟩ := List.cons.inj stretches
    exact ⟨nofun, List.forall_mem_singleton.2 empty⟩
  | cons c rest ih =>
    obtain ⟨own, letters⟩ := List.forall_mem_cons.1 simple
    obtain ⟨second, others, later, cases⟩ := wordStretches_cons c rest
    obtain ⟨begins, each⟩ := ih letters later
    obtain ⟨-, split⟩ | ⟨kept, -, split⟩ | ⟨kept, goesOn, split⟩ := cases
    · obtain ⟨rfl, rfl⟩ := List.cons.inj (stretches.symm.trans split)
      exact ⟨nofun, List.forall_mem_cons.2 ⟨empty, each⟩⟩
    · obtain ⟨rfl, rfl⟩ := List.cons.inj (stretches.symm.trans split)
      exact ⟨fun _ same => same, List.forall_mem_cons.2 ⟨empty.cons own kept nofun, each⟩⟩
    · obtain ⟨rfl, rfl⟩ := List.cons.inj (stretches.symm.trans split)
      obtain ⟨stretch, each⟩ := List.forall_mem_cons.1 each
      refine ⟨fun _ same => same,
        List.forall_mem_cons.2 ⟨stretch.cons own kept fun next same => ?_, each⟩⟩
      obtain ⟨rest, rfl⟩ := List.head?_eq_some_iff.1 (begins next same)
      exact own.even_of_goesOn (letters next List.mem_cons_self) goesOn

/-- The lower case of simple letters is that of each. -/
theorem lower_of_simple {cs : List Char} (simple : ∀ c ∈ cs, Simple c) :
    lower cs = cs.map smallOf := by
  have each (before : Bool) : lowerAfter before cs = cs.map smallOf := by
    induction cs generalizing before with
    | nil => rfl
    | cons c rest ih =>
      have own := simple c List.mem_cons_self
      rw [lowerAfter, if_neg own.ne_sigma, own.lowerOf_eq,
        ih fun c member => simple c (List.mem_cons_of_mem _ member)]
      rfl
  exact each false

/-- A word of simple letters with a capital in front. -/
theorem capitalize_of_simple {c : Char} {rest : List Char}
    (simple : ∀ other ∈ c :: rest, Simple other) :
    capitalize (c :: rest) = capitalOf c :: rest.map smallOf := by
  rw [capitalize, (simple c List.mem_cons_self).upperOf_eq,
    lower_of_simple fun other member => simple other (List.mem_cons_of_mem _ member)]
  rfl

/-- A text of simple letters is spelled stretch by stretch, as words of their own, or the first of
them as the rest of a word. -/
theorem respell_wordStretches {cs : List Char} (simple : ∀ c ∈ cs, Simple c)
    {first : List Char} {more : List (List Char)}
    (stretches : wordStretches (singles cs) = first :: more) :
    respell true cs = capitalize first ++ more.flatMap capitalize
      ∧ respell false cs = first.map smallOf ++ more.flatMap capitalize := by
  induction cs generalizing first more with
  | nil =>
    obtain ⟨rfl, rfl⟩ := List.cons.inj stretches
    exact ⟨rfl, rfl⟩
  | cons c rest ih =>
    obtain ⟨own, letters⟩ := List.forall_mem_cons.1 simple
    obtain ⟨second, others, later, cases⟩ := wordStretches_cons c rest
    obtain ⟨begun, continued⟩ := ih letters later
    obtain ⟨separates, split⟩ | ⟨kept, ends, split⟩ | ⟨kept, goesOn, split⟩ := cases
    · obtain ⟨rfl, rfl⟩ := List.cons.inj (stretches.symm.trans split)
      rw [respell, if_pos separates, respell, if_pos separates, begun]
      exact ⟨rfl, rfl⟩
    · obtain ⟨rfl, rfl⟩ := List.cons.inj (stretches.symm.trans split)
      rw [respell, kept, ends, begun, respell, kept, ends, begun,
        capitalize_of_simple (List.forall_mem_singleton.2 own)]
      exact ⟨rfl, rfl⟩
    · obtain ⟨rfl, rfl⟩ := List.cons.inj (stretches.symm.trans split)
      have word := (stretch_wordStretches letters later).2 second List.mem_cons_self
      rw [respell, kept, goesOn, continued, respell, kept, goesOn, continued,
        capitalize_of_simple (List.forall_mem_cons.2 ⟨own, word.simple⟩)]
      exact ⟨rfl, rfl⟩

/-- The canonical spelling of a name of simple letters can be read off letter by letter. -/
theorem canonicalName_eq_respell {name : String} (simple : ∀ c ∈ name.toList, Simple c) :
    canonicalName name = String.ofList (respell true name.toList) := by
  obtain ⟨first, more, stretches⟩ := exists_wordStretches (singles name.toList)
  have nonempty (stretches : List (List Char)) :
      (stretches.filter fun word => !word.isEmpty).flatMap capitalize
        = stretches.flatMap capitalize := by
    induction stretches with
    | nil => rfl
    | cons word rest ih => cases word <;> simp [capitalize, ih]
  rw [canonicalName, words, clusters_of_plain fun c member => (simple c member).plain, nonempty,
    stretches, List.flatMap_cons, (respell_wordStretches simple stretches).1]

end Listing.Text
