import Listing.Proofs.Binding

/-!
# Values in the places of a fragment

A question mark of a fragment is live when what stands before it is characters that are no quotes
and regions between two quotes of one kind. Binding puts the placeholders of the values in the
places of the live question marks and keeps every other character. Main statements:
`getElem?_layout_eq_hole_iff` says which places are live, `fill_replacements` how placeholders are
numbered, and `bind_substitutes` what binding gives for every fragment and all values.
-/
namespace Listing.Fragment

/-! ## Live question marks -/

/-- The characters that begin and end quotes. -/
def quoteMarks : List Char := ['\x22', '\x60', '\x27']

/-- A text of characters that are no quotes and of regions, each of which a quote opens and the next
one of its kind closes. -/
inductive Settled : List Char → Prop
  /-- The empty text leaves no region open. -/
  | nil : Settled []
  /-- A character that is no quote opens none. -/
  | plain {c : Char} {rest : List Char} (other : c ∉ quoteMarks) (later : Settled rest) :
      Settled (c :: rest)
  /-- A region ends at the next quote that is the one it began with. -/
  | region {mark : Char} {inside rest : List Char} (quote : mark ∈ quoteMarks)
      (unclosed : mark ∉ inside) (later : Settled rest) : Settled (mark :: inside ++ mark :: rest)

/-- A character that is no quote opens none. -/
theorem quotesAfterAll_plain {c : Char} (other : c ∉ quoteMarks) (rest : List Char) :
    quotesAfterAll none (c :: rest) = quotesAfterAll none rest := by
  have stays : quotesAfter none c = none := if_neg fun quote => other (isQuote_iff.1 quote)
  rw [quotesAfterAll, List.foldl_cons, stays]
  rfl

/-- Quotes stay open as long as none of their kind follows. -/
theorem quotesAfterAll_open {mark : Char} {inside : List Char} (unclosed : mark ∉ inside) :
    quotesAfterAll (some mark) inside = some mark := by
  induction inside with
  | nil => rfl
  | cons c rest ih =>
    have other : c ≠ mark := fun same => unclosed (same ▸ List.mem_cons_self)
    rw [quotesAfterAll, List.foldl_cons, quotesAfter, if_neg other]
    exact ih fun member => unclosed (List.mem_cons_of_mem _ member)

/-- After a region no more quotes are open than before it. -/
theorem quotesAfterAll_region {mark : Char} {inside : List Char} (quote : mark ∈ quoteMarks)
    (unclosed : mark ∉ inside) (rest : List Char) :
    quotesAfterAll none (mark :: inside ++ mark :: rest) = quotesAfterAll none rest := by
  have opens : quotesAfter none mark = some mark := if_pos (isQuote_iff.2 quote)
  have closes : quotesAfter (some mark) mark = none := if_pos rfl
  have stays := quotesAfterAll_open unclosed
  rw [quotesAfterAll] at stays
  rw [quotesAfterAll, List.cons_append, List.foldl_cons, opens, List.foldl_append, stays,
    List.foldl_cons, closes]
  rfl

/-- After a text no quotes are open exactly when it is settled. -/
theorem quotesAfterAll_eq_none_iff {text : List Char} :
    quotesAfterAll none text = none ↔ Settled text := by
  constructor
  · intro none
    induction size : text.length using Nat.strongRecOn generalizing text with
    | ind length ih =>
      subst size
      cases text with
      | nil => exact .nil
      | cons c rest =>
        by_cases quote : c ∈ quoteMarks
        · -- the region that begins here has to end, for else its quote would be open still
          have closed : c ∈ rest := by
            by_contra unclosed
            have opens : quotesAfter .none c = some c := if_pos (isQuote_iff.2 quote)
            have stays := quotesAfterAll_open unclosed
            rw [quotesAfterAll, List.foldl_cons, opens] at none
            rw [quotesAfterAll, none] at stays
            contradiction
          obtain ⟨inside, after, rfl, unclosed⟩ := List.eq_append_cons_of_mem closed
          have shorter : after.length < (c :: (inside ++ c :: after)).length := by
            simp only [List.length_cons, List.length_append]
            omega
          have later := none
          rw [← List.cons_append, quotesAfterAll_region quote unclosed] at later
          exact .region quote unclosed (ih after.length shorter later rfl)
        · rw [quotesAfterAll_plain quote] at none
          exact .plain quote (ih rest.length (Nat.lt_succ_self _) none rfl)
  · intro settled
    induction settled with
    | nil => rfl
    | plain other _ ih => rwa [quotesAfterAll_plain other]
    | region quote unclosed _ ih => rwa [quotesAfterAll_region quote unclosed]

/-- Reading finds a place for a value where a question mark stands and no quotes are open. -/
theorem getElem?_tokens_eq_hole_iff {quotes : Option Char} {text : List Char} {place : Nat} :
    (tokens quotes text)[place]? = some .hole
      ↔ text[place]? = some '?' ∧ quotesAfterAll quotes (text.take place) = none := by
  induction text generalizing quotes place with
  | nil => simp [tokens]
  | cons c rest ih =>
    rw [tokens]
    cases place with
    | zero =>
      by_cases hole : c = '?' ∧ quotes = none <;> simp [hole, quotesAfterAll]
    | succ place =>
      rw [List.getElem?_cons_succ, List.getElem?_cons_succ, List.take_succ_cons, ih]
      rfl

/-- The live question marks of a fragment are the holes of its layout. -/
theorem getElem?_layout_eq_hole_iff {fragment : String} {place : Nat} :
    (layout fragment)[place]? = some .hole
      ↔ fragment.toList[place]? = some '?' ∧ Settled (fragment.toList.take place) := by
  rw [layout, ← tokens_eq_layoutOf, getElem?_tokens_eq_hole_iff, quotesAfterAll_eq_none_iff]

/-- With a question mark in every hole a layout is the text it was read from. -/
theorem fill_tokens (quotes : Option Char) (text : List Char) :
    fill (List.replicate (holes (tokens quotes text)) "?") (tokens quotes text) = text := by
  induction text generalizing quotes with
  | nil => rfl
  | cons c rest ih =>
    rw [tokens]
    by_cases hole : c = '?' ∧ quotes = none
    · rw [if_pos hole, holes_hole, List.replicate_succ, fill, ih, hole.1]
      rfl
    · rw [if_neg hole, holes_char, fill, ih]

/-! ## Replacements -/

/-- What takes the place of a live question mark when so many parameters are bound before it: a
placeholder for each item of a list, `NULL` for none, and one for every other value. -/
def replacement (dialect : Dialect) (count : Nat) : Value → String
  | .list [] => "NULL"
  | .list items => ", ".intercalate ((List.range' (count + 1) items.length).map dialect.placeholder)
  | _ => dialect.placeholder (count + 1)

/-- What takes the places of live question marks for values in order. -/
def replacements (dialect : Dialect) : Nat → List Value → List String
  | _, [] => []
  | count, value :: later =>
    replacement dialect count value :: replacements dialect (count + value.arity) later

/-- The replacement for a value fills the layout that is spread over its items. -/
theorem replacement_eq_fill (dialect : Dialect) (count : Nat) (value : Value) :
    (replacement dialect count value).toList
      = fill (placeholdersFrom dialect (count + 1) value.arity) (spread value.arity) := by
  have single : (dialect.placeholder (count + 1)).toList
      = fill (placeholdersFrom dialect (count + 1) 1) (spread 1) :=
    (List.append_nil _).symm
  cases value with
  | list items =>
    cases items with
    | nil => simp [replacement, Value.arity, Value.expansion, spread]
    | cons item rest =>
      have some : placeholdersFrom dialect (count + 1) (item :: rest).length ≠ [] :=
        List.cons_ne_nil _ _
      have filled := intercalate_eq_fill some
      rw [length_placeholdersFrom] at filled
      exact filled
  | _ => exact single

/-- Replacements fill a layout as consecutive placeholders fill it when its holes are spread. -/
theorem fill_replacements (dialect : Dialect) {count : Nat} {values : List Value}
    {layout : List Token} (fits : holes layout = values.length) :
    fill (replacements dialect count values) layout
      = fill (placeholdersFrom dialect (count + 1) (values.flatMap Value.expansion).length)
          (expand (values.map Value.arity) layout) := by
  induction layout generalizing count values with
  | nil => simp [fill, expand]
  | cons token rest ih =>
    cases token with
    | char c =>
      rw [holes_char] at fits
      rw [fill, expand, fill, ih fits]
    | hole =>
      rw [holes_hole] at fits
      cases values with
      | nil => simp at fits
      | cons value later =>
        have enough : (placeholdersFrom dialect (count + 1) value.arity).length
            = holes (spread value.arity) := by simp
        have position : count + 1 + value.arity = count + value.arity + 1 := by omega
        have length : ((value :: later).flatMap Value.expansion).length
            = value.arity + (later.flatMap Value.expansion).length := by
          rw [List.flatMap_cons, List.length_append, Value.arity]
        rw [replacements, fill, replacement_eq_fill, ih (Nat.succ.inj fits), List.map_cons, expand,
          length, placeholdersFrom_add, fill_append _ _ enough, position]

/-! ## Binding -/

/-- A fragment with as many live question marks as there are values binds to its text with the
replacements of the values in their places. -/
theorem bind_of_fits (dialect : Dialect) {fragment : String} {values : List Value}
    (before : List Value) (fits : holes (layout fragment) = values.length) :
    bind dialect fragment values before
      = ⟨.ok (String.ofList (fill (replacements dialect before.length values) (layout fragment))),
        before ++ values.flatMap Value.expansion⟩ := by
  have none : mismatch? (holes (layout fragment)) values.length = .none := by
    rw [mismatch?, if_neg (by omega), if_neg (by omega)]
  rw [bind_eq, bound, none, fits, List.take_length, fill_replacements dialect fits]
  rfl

/-- A fragment with more or fewer live question marks than there are values does not bind; the
values that met one of them are bound nevertheless. -/
theorem bind_of_mismatch (dialect : Dialect) {fragment : String} {values : List Value}
    (before : List Value) {mismatch : Mismatch}
    (differ : mismatch? (holes (layout fragment)) values.length = some mismatch) :
    bind dialect fragment values before
      = ⟨.error mismatch,
        before ++ (values.take (holes (layout fragment))).flatMap Value.expansion⟩ := by
  rw [bind_eq, bound, differ]
  rfl

/-- Binding fails as the numbers of live question marks and of values are out of step. -/
theorem result_eq_error_iff {dialect : Dialect} {fragment : String} {values before : List Value}
    {mismatch : Mismatch} :
    (bind dialect fragment values before).result = .error mismatch
      ↔ mismatch? (holes (layout fragment)) values.length = some mismatch := by
  cases differ : mismatch? (holes (layout fragment)) values.length with
  | none =>
    rw [bind_eq, bound, differ]
    simp [Except.map]
  | some other => simp [bind_of_mismatch dialect before differ]

/-- Values bind to a fragment exactly when it has as many live question marks, each of which is then
replaced by what its value asks for; nothing else is changed. -/
theorem bind_substitutes (dialect : Dialect) (fragment : String) (values before : List Value) :
    let live := holes (layout fragment)
    let bound := bind dialect fragment values before
    (∀ place, (layout fragment)[place]? = some .hole
        ↔ fragment.toList[place]? = some '?' ∧ Settled (fragment.toList.take place))
      ∧ fill (List.replicate live "?") (layout fragment) = fragment.toList
      ∧ ((∃ text, bound.result = .ok text) ↔ live = values.length)
      ∧ (live = values.length →
          let text := fill (replacements dialect before.length values) (layout fragment)
          let count := (values.flatMap Value.expansion).length
          bound = ⟨.ok (String.ofList text), before ++ values.flatMap Value.expansion⟩
            ∧ text = fill ((List.range' (before.length + 1) count).map dialect.placeholder)
                (expand (values.map Value.arity) (layout fragment)))
      ∧ (values.length < live →
          bound = ⟨.error .morePlaceholders, before ++ values.flatMap Value.expansion⟩)
      ∧ (live < values.length →
          bound = ⟨.error .fewerPlaceholders, before ++ (values.take live).flatMap Value.expansion⟩)
      ∧ ∀ other earlier, let again := bind other fragment values earlier
          again.parameters = earlier ++ (values.take live).flatMap Value.expansion
            ∧ ∀ mismatch, again.result = .error mismatch ↔ bound.result = .error mismatch := by
  intro live bound
  have few (less : values.length < live) : mismatch? live values.length = some .morePlaceholders :=
    if_pos less
  have many (more : live < values.length) :
      mismatch? live values.length = some .fewerPlaceholders := by
    rw [mismatch?, if_neg (by omega), if_pos more]
  refine ⟨fun place => getElem?_layout_eq_hole_iff, ?kept, ?binds, ?fits, ?less,
    fun more => bind_of_mismatch dialect before (many more), ?dialects⟩
  case kept =>
    have filled := fill_tokens none fragment.toList
    rwa [tokens_eq_layoutOf] at filled
  case binds =>
    constructor
    · rintro ⟨text, ok⟩
      by_contra differ
      obtain less | more := Nat.lt_or_gt_of_ne differ
      · have failed : bound.result = _ := result_eq_error_iff.2 (many less)
        rw [failed] at ok
        contradiction
      · have failed : bound.result = _ := result_eq_error_iff.2 (few more)
        rw [failed] at ok
        contradiction
    · intro fits
      exact ⟨_, congrArg Bound.result (bind_of_fits dialect before fits)⟩
  case fits =>
    exact fun fits => ⟨bind_of_fits dialect before fits, fill_replacements dialect fits⟩
  case less =>
    intro less
    have all : values.take live = values := List.take_of_length_le (Nat.le_of_lt less)
    have failed := bind_of_mismatch dialect before (few less)
    rwa [all] at failed
  case dialects =>
    intro other earlier
    have parameters : (bind other fragment values earlier).parameters
        = earlier ++ (values.take live).flatMap Value.expansion := by
      rw [bind_eq]
      rfl
    exact ⟨parameters, fun mismatch => result_eq_error_iff.trans result_eq_error_iff.symm⟩

end Listing.Fragment
