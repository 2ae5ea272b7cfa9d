import Listing.Proofs.Entries
import Listing.Proofs.WordBorders
import Listing.Schema

/-!
# Spellings of a list of words

A list of words is spelled as a name in three styles: `created_at`, `createdAt` and `CreatedAt`. A
schema knows fields by their canonical spellings, which are those of the last style, so it knows a
field under all three, and under no spelling of other words. Main statements: `canonicalName_spell`,
`canonicalName_spell_eq_iff`, and `Schema.knows_words` for what a schema answers under any spelling
after any declarations.
-/
namespace Listing

namespace Text

/-- A word of at least two small letters of ASCII. -/
@[ext]
structure Word where
  /-- The letters. -/
  letters : List Char
  /-- All letters are small. -/
  small : ∀ c ∈ letters, c.isLower
  /-- There are two of them. -/
  two_le : 2 ≤ letters.length
  deriving DecidableEq

/-- The letters of a word with a capital in front. -/
def Word.capitalized (word : Word) : List Char :=
  match word.letters with
  | [] => []
  | c :: rest => c.toUpper :: rest

/-- A style in which names are spelled. -/
inductive NameStyle where
  /-- Small letters with an underscore between words, as in `created_at`. -/
  | snake
  /-- A capital in front of every word but the first, as in `createdAt`. -/
  | camel
  /-- A capital in front of every word, as in `CreatedAt`. -/
  | upperCamel
  deriving DecidableEq, Repr

namespace NameStyle

/-- How a style spells the first word of a name. -/
def first : NameStyle → Word → List Char
  | snake, word | camel, word => word.letters
  | upperCamel, word => word.capitalized

/-- How a style spells the words after the first. -/
def later : NameStyle → Word → List Char
  | snake, word => '_' :: word.letters
  | camel, word | upperCamel, word => word.capitalized

/-- The name that a style makes of words. -/
def spell (style : NameStyle) : List Word → String
  | [] => ""
  | word :: rest => String.ofList (style.first word ++ rest.flatMap style.later)

end NameStyle

/-! ## Letters -/

/-- A small letter of ASCII is simple and has case; its capital is the one of ASCII. -/
theorem forms_of_isLower {c : Char} (lower : c.isLower) :
    Simple c ∧ HasCase c ∧ smallOf c = c ∧ capitalOf c = c.toUpper := by
  have bounds : 97 ≤ c.toNat ∧ c.toNat ≤ 122 := by
    obtain ⟨above, below⟩ := Bool.and_eq_true_iff.1 lower
    exact ⟨UInt32.le_iff_toNat_le.1 (of_decide_eq_true above),
      UInt32.le_iff_toNat_le.1 (of_decide_eq_true below)⟩
  have codes : ∀ code < 123, 97 ≤ code → HasCase (Char.ofNat code)
      ∧ smallOf (Char.ofNat code) = Char.ofNat code
      ∧ capitalOf (Char.ofNat code) = (Char.ofNat code).toUpper := by
    decide +kernel
  exact ⟨simple_of_ascii (by omega) (by omega),
    of_codes (fun c => HasCase c ∧ smallOf c = c ∧ capitalOf c = c.toUpper) codes bounds.1
      (by omega)⟩

/-- A character that has case does not separate words. -/
theorem not_isWordSeparator_of_hasCase {c : Char} (cased : HasCase c) :
    isWordSeparator [c] = false := by
  rw [Bool.eq_false_iff]
  intro separates
  obtain ⟨capital, small⟩ := forms_of_isWordSeparator separates
  exact cased (capital.trans small.symm)

/-! ## Words -/

/-- A word is a small letter with others behind it, and with a capital in front the capital of that
letter with the same others. -/
theorem Word.exists_letters (word : Word) :
    ∃ c next rest, word.letters = c :: next :: rest ∧ word.capitalized = c.toUpper :: next :: rest
      ∧ c.isLower ∧ ∀ other ∈ next :: rest, other.isLower := by
  obtain ⟨letters, lower, two⟩ := word
  match letters, two with
  | c :: next :: rest, _ =>
    obtain ⟨own, others⟩ := List.forall_mem_cons.1 lower
    exact ⟨c, next, rest, rfl, rfl, own, others⟩

/-- No word ends within a word. -/
theorem Word.stretch (word : Word) : Stretch word.letters where
  simple := fun c member => (forms_of_isLower (word.small c member)).1
  kept := fun c member =>
    not_isWordSeparator_of_hasCase (forms_of_isLower (word.small c member)).2.1
  even := by
    refine (List.pairwise_of_forall_mem_list fun first left next right => ?_).isChain
    have leftCase := (forms_of_isLower (word.small first left)).2.1
    have rightCase := (forms_of_isLower (word.small next right)).2.1
    exact ⟨fun both => not_hasCase_of_isDigit both.2 rightCase,
      fun both => not_hasCase_of_isDigit both.1 leftCase⟩

/-- A text that begins with nothing of a word before it: with a separator or a capital, if at
all. -/
def Fresh (text : List Char) : Prop :=
  ∀ c ∈ text.head?, isWordSeparator [c] ∨ isUpperCluster [c]

/-- A word ends between a small letter and a text that begins afresh. -/
theorem respell_fresh {c : Char} (lower : c.isLower) {text : List Char} (fresh : Fresh text) :
    respell (wordEnds [c] (singles text)) text = respell true text := by
  obtain ⟨simple, cased, small, -⟩ := forms_of_isLower lower
  have inLower : isLowerCluster [c] = true := by
    have cluster := simple.clusters_small.2
    rwa [small, decide_eq_true cased] at cluster
  cases text with
  | nil => rfl
  | cons next rest =>
    obtain separates | upper := fresh next rfl
    · rw [respell, if_pos separates, respell, if_pos separates]
    · have ends : wordEnds [c] (singles (next :: rest)) = true := by
        simp [singles, wordEnds, inLower, upper]
      rw [ends]

/-- A word in small letters, or with a capital in front, is spelled with one before a text that
begins afresh. -/
theorem respell_word {word : Word} {spelled text : List Char}
    (form : spelled = word.letters ∨ spelled = word.capitalized) (fresh : Fresh text) :
    respell true (spelled ++ text) = word.capitalized ++ respell true text := by
  obtain ⟨c, next, rest, letters, capitalized, own, after⟩ := word.exists_letters
  obtain ⟨-, -, smallest, capital⟩ := forms_of_isLower own
  have stretch := word.stretch
  rw [letters] at stretch
  have small : (next :: rest).map smallOf = next :: rest :=
    (List.map_congr_left fun other member => (forms_of_isLower (after other member)).2.2.1).trans
      (List.map_id _)
  have last := after _ (List.getLast_mem (List.cons_ne_nil next rest))
  have spell {first : Char} (form : first = capitalOf c ∨ first = smallOf c) :
      respell true (first :: next :: rest ++ text)
        = capitalOf c :: (next :: rest ++ respell true text) := by
    have whole := stretch.respell form true text
    simp only [small, List.getLast_cons_cons, respell_fresh last fresh] at whole
    exact whole
  rw [capitalized, ← capital]
  obtain rfl | rfl := form
  · rw [letters]
    exact spell (.inr smallest.symm)
  · rw [capitalized, ← capital]
    exact spell (.inl rfl)

/-! ## Names -/

/-- The letters of a word, with a capital in front or not, are simple. -/
theorem simple_of_mem_word {word : Word} {c : Char}
    (member : c ∈ word.letters ∨ c ∈ word.capitalized) : Simple c := by
  obtain ⟨first, next, rest, letters, capitalized, own, others⟩ := word.exists_letters
  obtain ⟨simple, -, -, capital⟩ := forms_of_isLower own
  rw [letters, capitalized, List.mem_cons, List.mem_cons (l := next :: rest)] at member
  obtain (rfl | later) | rfl | later := member
  · exact simple
  · exact (forms_of_isLower (others c later)).1
  · exact capital ▸ simple.capital
  · exact (forms_of_isLower (others c later)).1

namespace NameStyle

variable (style : NameStyle)

/-- A style spells the first word in small letters or with a capital in front. -/
theorem first_eq (word : Word) :
    style.first word = word.letters ∨ style.first word = word.capitalized := by
  cases style
  · exact .inl rfl
  · exact .inl rfl
  · exact .inr rfl

/-- The words after the first begin afresh. -/
theorem fresh_later (words : List Word) : Fresh (words.flatMap style.later) := by
  cases words with
  | nil => nofun
  | cons word rest =>
    obtain ⟨c, next, more, -, capitalized, own, -⟩ := word.exists_letters
    obtain ⟨simple, cased, -, capital⟩ := forms_of_isLower own
    have upper : isUpperCluster [c.toUpper] = true := by
      rw [← capital, simple.clusters_capital.1, decide_eq_true cased]
    intro other same
    cases style with
    | snake =>
      obtain rfl := Option.some.inj same
      exact .inl rfl
    | camel | upperCamel =>
      rw [List.flatMap_cons, later, capitalized] at same
      obtain rfl := Option.some.inj same
      exact .inr upper

/-- The words after the first are spelled with capitals in front. -/
theorem respell_later (words : List Word) :
    respell true (words.flatMap style.later) = words.flatMap Word.capitalized := by
  induction words with
  | nil => rfl
  | cons word rest ih =>
    have fresh := style.fresh_later rest
    rw [List.flatMap_cons, List.flatMap_cons, ← ih]
    cases style with
    | snake =>
      have skipped : respell true ('_' :: (word.letters ++ rest.flatMap snake.later))
          = respell true (word.letters ++ rest.flatMap snake.later) := if_pos rfl
      exact skipped.trans (respell_word (.inl rfl) fresh)
    | camel => exact respell_word (.inr rfl) fresh
    | upperCamel => exact respell_word (.inr rfl) fresh

/-- A name in upper camel case is its words with capitals in front. -/
theorem spell_upperCamel (words : List Word) :
    upperCamel.spell words = String.ofList (words.flatMap Word.capitalized) := by
  cases words <;> rfl

/-- The letters of a name are simple. -/
theorem simple_of_mem_spell {words : List Word} {c : Char}
    (member : c ∈ (style.spell words).toList) : Simple c := by
  cases words with
  | nil => contradiction
  | cons word rest =>
    rw [spell, String.toList_ofList, List.mem_append, List.mem_flatMap] at member
    obtain first | ⟨word, -, later⟩ := member
    · obtain same | same := style.first_eq word
      · exact simple_of_mem_word (.inl (same ▸ first))
      · exact simple_of_mem_word (.inr (same ▸ first))
    · cases style with
      | snake =>
        obtain rfl | letter := List.mem_cons.1 later
        · exact simple_of_ascii (by decide) (by decide)
        · exact simple_of_mem_word (.inl letter)
      | camel => exact simple_of_mem_word (.inr later)
      | upperCamel => exact simple_of_mem_word (.inr later)

/-- The canonical spelling of a name in any style is the one in upper camel case. -/
theorem canonicalName_spell (words : List Word) :
    canonicalName (style.spell words) = upperCamel.spell words := by
  rw [canonicalName_eq_respell fun c => style.simple_of_mem_spell, spell_upperCamel]
  cases words with
  | nil => rfl
  | cons word rest =>
    rw [spell, String.toList_ofList, respell_word (style.first_eq word) (style.fresh_later rest),
      respell_later, List.flatMap_cons]

-- two words in the three styles
example :
    let created : Word := ⟨"created".toList, List.all_eq_true.1 (by decide), by decide⟩
    let since : Word := ⟨"since".toList, List.all_eq_true.1 (by decide), by decide⟩
    [snake, camel, upperCamel].map (fun style => style.spell [created, since])
      = ["created_since", "createdSince", "CreatedSince"] := by
  decide +kernel

end NameStyle

/-! ## Words of a name -/

/-- Words with capitals in front begin with no small letter. -/
theorem not_isLower_head (words : List Word) :
    ∀ c ∈ (words.flatMap Word.capitalized).head?, c.isLower = false := by
  cases words with
  | nil => nofun
  | cons word rest =>
    obtain ⟨c, next, more, -, capitalized, own, -⟩ := word.exists_letters
    obtain ⟨simple, cased, -, capital⟩ := forms_of_isLower own
    intro other same
    rw [List.flatMap_cons, capitalized] at same
    obtain rfl := Option.some.inj same
    rw [Bool.eq_false_iff]
    intro lower
    -- a small letter that is a capital is its own capital
    have small := (forms_of_isLower lower).2.2.1
    rw [← capital, simple.smallOf_capitalOf] at small
    exact cased small.symm

/-- The small letters in front of words with capitals in front are told from them. -/
theorem takeWhile_isLower {letters : List Char} (lower : ∀ c ∈ letters, c.isLower)
    (words : List Word) :
    (letters ++ words.flatMap Word.capitalized).takeWhile Char.isLower = letters := by
  have stops := not_isLower_head words
  rw [List.takeWhile_append_of_pos lower]
  cases spelled : words.flatMap Word.capitalized with
  | nil => simp
  | cons c rest =>
    have capital : c.isLower = false := stops c (by rw [spelled]; rfl)
    rw [List.takeWhile_cons_of_neg (by simp [capital]), List.append_nil]

/-- Different words differ with capitals in front. -/
theorem Word.capitalized_injective : Function.Injective Word.capitalized := by
  intro word other same
  obtain ⟨c, next, rest, letters, capitalized, own, -⟩ := word.exists_letters
  obtain ⟨d, following, behind, otherLetters, otherCapitalized, otherOwn, -⟩ := other.exists_letters
  obtain ⟨simple, -, small, capital⟩ := forms_of_isLower own
  obtain ⟨otherSimple, -, otherSmall, otherCapital⟩ := forms_of_isLower otherOwn
  rw [capitalized, otherCapitalized] at same
  obtain ⟨capitals, smalls⟩ := List.cons.inj same
  have begins : c = d := by
    rw [← small, ← otherSmall, ← simple.smallOf_capitalOf, ← otherSimple.smallOf_capitalOf,
      capital, otherCapital, capitals]
  apply Word.ext
  rw [letters, otherLetters, begins, smalls]

/-- Different lists of words differ with capitals in front. -/
theorem flatMap_capitalized_injective :
    Function.Injective fun words : List Word => words.flatMap Word.capitalized := by
  intro first second same
  dsimp only at same
  induction first generalizing second with
  | nil =>
    cases second with
    | nil => rfl
    | cons other others =>
      obtain ⟨c, next, rest, -, capitalized, -⟩ := other.exists_letters
      rw [List.flatMap_cons, capitalized] at same
      contradiction
  | cons word words ih =>
    obtain ⟨c, next, rest, -, capitalized, -, lower⟩ := word.exists_letters
    cases second with
    | nil =>
      rw [List.flatMap_cons, capitalized] at same
      contradiction
    | cons other others =>
      obtain ⟨d, following, behind, -, otherCapitalized, -, otherLower⟩ := other.exists_letters
      rw [List.flatMap_cons, List.flatMap_cons, capitalized, otherCapitalized] at same
      have tails : next :: rest ++ words.flatMap Word.capitalized
          = following :: behind ++ others.flatMap Word.capitalized := (List.cons.inj same).2
      -- both first words end where their small letters do
      have smalls : next :: rest = following :: behind := by
        have read := congrArg (List.takeWhile Char.isLower) tails
        rwa [takeWhile_isLower lower, takeWhile_isLower otherLower] at read
      have heads : word = other := by
        apply Word.capitalized_injective
        rw [capitalized, otherCapitalized, (List.cons.inj same).1, smalls]
      rw [smalls] at tails
      rw [heads, ih (List.append_cancel_left tails)]

namespace NameStyle

/-- Two names have one canonical spelling exactly when they are spelled from the same words. -/
theorem canonicalName_spell_eq_iff {style other : NameStyle} {words others : List Word} :
    canonicalName (style.spell words) = canonicalName (other.spell others) ↔ words = others := by
  rw [canonicalName_spell, canonicalName_spell, spell_upperCamel, spell_upperCamel,
    String.ofList_inj]
  exact flatMap_capitalized_injective.eq_iff

end NameStyle

end Text

open Text

/-- The declaration of a field under a spelling of words. -/
structure Declaration where
  /-- The words. -/
  words : List Word
  /-- The style in which they are spelled. -/
  style : NameStyle
  /-- The kind of the field. -/
  kind : FieldKind

/-- The field that a declaration declares. -/
def Declaration.field (declaration : Declaration) : String × FieldKind :=
  (declaration.style.spell declaration.words, declaration.kind)

namespace Schema

variable {schema : Schema}

/-- A declaration adds a field unless the schema knows it. -/
theorem size_declare (field : String) (kind : FieldKind) :
    (schema.declare field kind).size
      = if (schema.kind? field).isSome then schema.size else schema.size + 1 :=
  Registry.length_register

/-- A declared field stays known, and a second declaration adds none. -/
theorem size_declare_declare {field name : String} (same : canonicalName name = canonicalName field)
    (kind later : FieldKind) :
    ((schema.declare field kind).declare name later).size = (schema.declare field kind).size := by
  rw [size_declare, kind?_declare, if_pos same, Option.isSome_some, if_pos rfl]

/-- What a schema makes of a text depends on the canonical spelling of its field, except for the
name in a refusal. -/
theorem coerce_congr {field name : String} (same : canonicalName name = canonicalName field)
    (text : String) :
    (∃ value events, schema.coerce field text = ⟨.ok value, events⟩
        ∧ schema.coerce name text = ⟨.ok value, events⟩)
      ∨ schema.coerce field text = ⟨.error (.notBoolean field text), []⟩
        ∧ schema.coerce name text = ⟨.error (.notBoolean name text), []⟩ := by
  rw [coerce, coerce, kind?_congr same, same]
  cases schema.kind? field with
  | none => exact .inl ⟨_, _, rfl, rfl⟩
  | some kind =>
    cases kind with
    | bool =>
      cases parseBool text with
      | none => exact .inr ⟨rfl, rfl⟩
      | some truth => exact .inl ⟨_, _, rfl, rfl⟩
    | string | number | date => exact .inl ⟨_, _, rfl, rfl⟩

/-- A declaration changes what is known of its words, and of no others. -/
theorem kind?_declare_spell (words others : List Word) (style other : NameStyle)
    (kind : FieldKind) :
    (schema.declare (style.spell words) kind).kind? (other.spell others)
      = if words = others then some kind else schema.kind? (other.spell others) := by
  rw [kind?_declare]
  simp only [NameStyle.canonicalName_spell_eq_iff, eq_comm]

/-- After declarations in order a schema knows words by the last that declares them, or as before
if none does. -/
theorem kind?_declareAll_spell (declared : List Declaration) (words : List Word)
    (style : NameStyle) :
    (schema.declareAll (declared.map Declaration.field)).kind? (style.spell words)
      = ((declared.reverse.find? fun declaration => declaration.words = words).map
          Declaration.kind).or (schema.kind? (style.spell words)) := by
  induction declared using List.reverseRecOn with
  | nil => rfl
  | append_singleton declared last ih =>
    rw [declareAll] at ih ⊢
    rw [List.map_append, List.map_singleton, List.foldl_concat, List.reverse_concat,
      Declaration.field, kind?_declare_spell, ih]
    by_cases same : last.words = words
    · rw [if_pos same, List.find?_cons_of_pos (by simpa using same)]
      rfl
    · rw [if_neg same, List.find?_cons_of_neg (by simpa using same)]

/-- A schema knows a field by its words, in whichever style they are declared and asked for, and its
kind is that of the last declaration of these words. -/
theorem knows_words (schema : Schema) (words : List Word) (style other : NameStyle) :
    (∀ kind, schema.declare (other.spell words) kind = schema.declare (style.spell words) kind)
      ∧ schema.kind? (other.spell words) = schema.kind? (style.spell words)
      ∧ schema.isTemporal (other.spell words) = schema.isTemporal (style.spell words)
      ∧ (∀ text, (∃ value events, schema.coerce (style.spell words) text = ⟨.ok value, events⟩
            ∧ schema.coerce (other.spell words) text = ⟨.ok value, events⟩)
          ∨ schema.coerce (style.spell words) text
              = ⟨.error (.notBoolean (style.spell words) text), []⟩
            ∧ schema.coerce (other.spell words) text
              = ⟨.error (.notBoolean (other.spell words) text), []⟩)
      ∧ (∀ kind others, (schema.declare (style.spell words) kind).kind? (other.spell others)
          = if words = others then some kind else schema.kind? (other.spell others))
      ∧ (∀ kind later, ((schema.declare (style.spell words) kind).declare (other.spell words)
            later).size = (schema.declare (style.spell words) kind).size)
      ∧ ∀ declared : List Declaration,
          (declareAll ⟨schema.name, []⟩ (declared.map Declaration.field)).kind?
              (style.spell words)
            = (declared.reverse.find? fun declaration => declaration.words = words).map
                Declaration.kind := by
  have same : canonicalName (other.spell words) = canonicalName (style.spell words) :=
    NameStyle.canonicalName_spell_eq_iff.2 rfl
  refine ⟨fun kind => ?_, kind?_congr same, ?_, coerce_congr same, ?_, size_declare_declare same,
    fun declared => ?_⟩
  · rw [declare, declare, same]
  · rw [isTemporal, isTemporal, kind?_congr same]
  · exact fun kind others => kind?_declare_spell words others style other kind
  · rw [kind?_declareAll_spell, kind?, Keyed.find?, List.lookup_nil, Option.or_none]

end Schema

end Listing
