import Listing.Fragment
import Mathlib.Algebra.Ring.Nat
import Mathlib.Data.List.Basic

/-!
# Holes of fragments and the text that binding writes

A fragment is read as tokens: the characters that binding keeps, and the holes, which are the
question marks outside quotes. A layout is a list of tokens; it is filled with one text for each
hole. Binding spreads every hole over the items of its value and fills the layout that results with
consecutive placeholders. Main statement: `bindFrom_eq` gives the text, the parameters and the
failures of binding for every fragment, every list of values and every state of the quotes.
-/
namespace Listing

/-- The number of parameters that a value becomes. -/
def Value.arity (value : Value) : Nat := value.expansion.length

namespace Fragment

/-- A part of a fragment, as binding sees it. -/
inductive Token where
  /-- A character that is kept. -/
  | char (c : Char)
  /-- A place for a value. -/
  | hole
  deriving DecidableEq, Repr

/-- The number of holes in a layout. -/
def holes (layout : List Token) : Nat := layout.count .hole

/-- The layout of a text without holes. -/
def literal (text : List Char) : List Token := text.map .char

/-- The layout of a text. A quote of one of the three kinds and everything up to the next of the
same kind, or up to the end, is kept; outside such regions each question mark is a hole. -/
def layoutOf : List Char → List Token
  | [] => []
  | c :: rest =>
    if c ∈ ['\x22', '\x60', '\x27'] then
      literal (c :: rest.takeWhile (· ≠ c) ++ (rest.dropWhile (· ≠ c)).take 1)
        ++ layoutOf ((rest.dropWhile (· ≠ c)).drop 1)
    else (if c = '?' then .hole else .char c) :: layoutOf rest
  termination_by text => text.length
  decreasing_by
    · have shorter := (List.dropWhile_suffix (l := rest) (· ≠ c)).length_le
      simp only [List.length_drop, List.length_cons]
      omega
    · simp

/-- The layout of a fragment. -/
def layout (fragment : String) : List Token := layoutOf fragment.toList

/-- The text of a layout whose holes are filled from left to right. -/
def fill : List String → List Token → List Char
  | _, [] => []
  | texts, .char c :: rest => c :: fill texts rest
  | [], .hole :: rest => fill [] rest
  | text :: texts, .hole :: rest => text.toList ++ fill texts rest

/-- The layout in place of the hole of a value with so many items: a hole for each item with commas
between them, and the word `NULL` when there is no item. -/
def spread : Nat → List Token
  | 0 => literal ['N', 'U', 'L', 'L']
  | 1 => [.hole]
  | items + 2 => .hole :: .char ',' :: .char ' ' :: spread (items + 1)

/-- A layout whose holes are spread, from left to right, over values with so many items each. -/
def expand : List Nat → List Token → List Token
  | _, [] => []
  | arities, .char c :: rest => .char c :: expand arities rest
  | [], .hole :: rest => .hole :: expand [] rest
  | arity :: arities, .hole :: rest => spread arity ++ expand arities rest

/-- Consecutive placeholders, the first at a position. -/
def placeholdersFrom (dialect : Dialect) (position count : Nat) : List String :=
  (List.range' position count).map dialect.placeholder

/-- What is wrong with so many holes for so many values, if anything is. -/
def mismatch? (holes values : Nat) : Option Mismatch :=
  if values < holes then some .morePlaceholders
  else if holes < values then some .fewerPlaceholders
  else none

/-- What binding values to a layout gives: a failure when the numbers differ, and else the filled
text; in both cases the values that met a hole have become parameters. -/
def bound (dialect : Dialect) (layout : List Token) (values parameters : List Value) :
    Bound (List Char) where
  result :=
    match mismatch? (holes layout) values.length with
    | some mismatch => .error mismatch
    | none => .ok (fill
        (placeholdersFrom dialect (parameters.length + 1) (values.flatMap Value.expansion).length)
        (expand (values.map Value.arity) layout))
  parameters := parameters ++ (values.take (holes layout)).flatMap Value.expansion

/-! ## Layouts -/

/-- A layout without tokens has no holes. -/
@[simp] theorem holes_nil : holes [] = 0 := rfl

/-- A character is no hole. -/
@[simp] theorem holes_char {c : Char} {rest : List Token} :
    holes (.char c :: rest) = holes rest := by
  simp [holes]

/-- A hole counts one. -/
@[simp] theorem holes_hole {rest : List Token} : holes (.hole :: rest) = holes rest + 1 := by
  simp [holes]

/-- The holes of layouts in sequence add up. -/
@[simp] theorem holes_append {first later : List Token} :
    holes (first ++ later) = holes first + holes later := by
  simp [holes]

/-- Characters alone have no holes. -/
@[simp] theorem holes_literal {text : List Char} : holes (literal text) = 0 := by
  induction text with
  | nil => rfl
  | cons c rest ih => simpa [literal] using ih

/-- A spread hole has one hole for each item. -/
@[simp] theorem holes_spread {items : Nat} : holes (spread items) = items := by
  induction items using spread.induct with
  | case1 => rfl
  | case2 => rfl
  | case3 items ih => simp [spread, ih]

/-- Layouts in sequence are filled one after the other, each with texts for its own holes. -/
theorem fill_append (more : List String) (later : List Token) {texts : List String}
    {first : List Token} (enough : texts.length = holes first) :
    fill (texts ++ more) (first ++ later) = fill texts first ++ fill more later := by
  induction first generalizing texts with
  | nil =>
    obtain rfl := List.length_eq_zero_iff.1 (enough.trans holes_nil)
    rfl
  | cons token rest ih =>
    cases token with
    | char c =>
      rw [holes_char] at enough
      simp [fill, ih enough]
    | hole =>
      rw [holes_hole] at enough
      cases texts with
      | nil => simp at enough
      | cons text texts =>
        have rest : texts.length = holes rest := by simpa using enough
        simp [fill, ih rest]

/-- Characters alone take no texts. -/
@[simp] theorem fill_literal {texts : List String} {text : List Char} :
    fill texts (literal text) = text := by
  induction text with
  | nil => simp [literal, fill]
  | cons c rest ih => simpa [literal, fill] using ih

/-- Characters in front of a layout take no texts. -/
theorem fill_literal_append {texts : List String} {text : List Char} {later : List Token} :
    fill texts (literal text ++ later) = text ++ fill texts later := by
  have enough : ([] : List String).length = holes (literal text) := by simp
  simpa using fill_append texts later enough

/-- A layout with as many holes as values has, once it is expanded, a hole for each item. -/
theorem holes_expand {arities : List Nat} {layout : List Token}
    (fits : holes layout = arities.length) : holes (expand arities layout) = arities.sum := by
  induction layout generalizing arities with
  | nil =>
    obtain rfl := List.length_eq_zero_iff.1 (fits.symm.trans holes_nil)
    rfl
  | cons token rest ih =>
    cases token with
    | char c =>
      rw [holes_char] at fits
      simp [expand, ih fits]
    | hole =>
      rw [holes_hole] at fits
      cases arities with
      | nil => simp at fits
      | cons arity arities =>
        have rest : holes rest = arities.length := by simpa using fits
        simp [expand, ih rest]

/-- Placeholders in sequence number on. -/
theorem placeholdersFrom_add {dialect : Dialect} {position first later : Nat} :
    placeholdersFrom dialect position (first + later)
      = placeholdersFrom dialect position first
        ++ placeholdersFrom dialect (position + first) later := by
  rw [placeholdersFrom, ← List.range'_append_1, List.map_append]
  rfl

/-- There are as many placeholders as were asked for. -/
@[simp] theorem length_placeholdersFrom {dialect : Dialect} {position count : Nat} :
    (placeholdersFrom dialect position count).length = count := by
  simp [placeholdersFrom]

/-! ## Reading with a state

Binding reads a text one character at a time and remembers which quote is open. Its tokens are the
layout of the text. -/

/-- The quotes that are open after a text, with some or no quotes open before it. -/
def quotesAfterAll (quotes : Option Char) (text : List Char) : Option Char :=
  text.foldl quotesAfter quotes

/-- The tokens of a text, with some or no quotes open before it. -/
def tokens : Option Char → List Char → List Token
  | _, [] => []
  | quotes, c :: rest =>
    (if c = '?' ∧ quotes = none then .hole else .char c) :: tokens (quotesAfter quotes c) rest

/-- Texts in sequence are read one after the other; the quotes that the first leaves open are open
before the second. -/
theorem tokens_append {quotes : Option Char} {first later : List Char} :
    tokens quotes (first ++ later)
      = tokens quotes first ++ tokens (quotesAfterAll quotes first) later := by
  induction first generalizing quotes with
  | nil => rfl
  | cons c rest ih => simp [tokens, ih, quotesAfterAll]

/-- An open quote keeps everything up to the next of its kind, after which no quote is open. -/
theorem tokens_open (mark : Char) (text : List Char) :
    tokens (some mark) text
      = literal (text.takeWhile (· ≠ mark) ++ (text.dropWhile (· ≠ mark)).take 1)
        ++ tokens none ((text.dropWhile (· ≠ mark)).drop 1) := by
  induction text with
  | nil => rfl
  | cons c rest ih =>
    by_cases same : c = mark
    · subst same
      simp [tokens, quotesAfter, literal]
    · simp [tokens, quotesAfter, literal, same, ih]

/-- A character begins quotes when it is one of three. -/
theorem isQuote_iff {c : Char} : isQuote c = true ↔ c ∈ ['\x22', '\x60', '\x27'] := by
  simp [isQuote, or_assoc]

/-- Reading a text from outside quotes gives its layout. -/
theorem tokens_eq_layoutOf (text : List Char) : tokens none text = layoutOf text := by
  induction text using layoutOf.induct with
  | case1 => simp [tokens, layoutOf]
  | case2 c rest quote ih =>
    have opens : quotesAfter none c = some c := if_pos (isQuote_iff.2 quote)
    have kept : c ≠ '?' := by
      rintro rfl
      simp at quote
    rw [tokens, layoutOf, if_pos quote, opens, tokens_open, ih, if_neg (fun hole => kept hole.1)]
    rfl
  | case3 c rest plain ih =>
    have stays : quotesAfter none c = none := if_neg fun quote => plain (isQuote_iff.1 quote)
    rw [tokens, layoutOf, if_neg plain, stays, ih]
    simp

/-! ## Binding -/

/-- The items of values are as many as their arities say. -/
theorem length_flatMap_expansion {values : List Value} :
    (values.flatMap Value.expansion).length = (values.map Value.arity).sum := by
  rw [List.length_flatMap]
  rfl

/-- Texts with commas between them fill the layout of as many items. -/
theorem intercalate_eq_fill {texts : List String} (some : texts ≠ []) :
    (", ".intercalate texts).toList = fill texts (spread texts.length) := by
  induction texts with
  | nil => contradiction
  | cons text rest ih =>
    cases rest with
    | nil => simp [spread, fill]
    | cons next rest =>
      have later := ih (List.cons_ne_nil _ _)
      rw [String.intercalate_cons_cons, String.toList_append, String.toList_append, later]
      simp [spread, fill]

/-- The placeholders of a value fill the layout that its hole is spread to. -/
theorem placeholders_eq_fill {dialect : Dialect} {count : Nat} {value : Value} :
    (placeholders dialect count value).toList
      = fill (placeholdersFrom dialect (count + 1) value.arity) (spread value.arity) := by
  have numbered : (List.range value.arity).map
        (fun index => dialect.placeholder (count + index + 1))
      = placeholdersFrom dialect (count + 1) value.arity := by
    rw [placeholdersFrom, List.range'_eq_map_range, List.map_map]
    refine List.map_congr_left fun index _ => ?_
    rw [Function.comp_apply, Nat.add_right_comm]
  rw [placeholders]
  split
  · rename_i empty
    have none : value.arity = 0 := by simpa [Value.arity] using empty
    rw [none]
    rfl
  · rename_i nonempty
    have some : value.arity ≠ 0 := by simpa [Value.arity] using nonempty
    have texts : placeholdersFrom dialect (count + 1) value.arity ≠ [] := by
      rw [← List.length_pos_iff, length_placeholdersFrom]
      exact Nat.pos_of_ne_zero some
    have filled := intercalate_eq_fill texts
    rw [length_placeholdersFrom] at filled
    rw [← filled, ← numbered]
    rfl

/-- A character in front of a layout stands in front of what binding writes. -/
theorem bound_char {dialect : Dialect} {c : Char} {layout : List Token}
    {values parameters : List Value} :
    bound dialect (.char c :: layout) values parameters
      = (bound dialect layout values parameters).after [c] := by
  simp only [bound, Bound.after, holes_char, expand, fill]
  split <;> rfl

/-- A hole in front of a layout takes the first value; without one there are too few. -/
theorem bound_hole {dialect : Dialect} {layout : List Token} {values parameters : List Value} :
    bound dialect (.hole :: layout) values parameters
      = match values with
        | [] => ⟨.error .morePlaceholders, parameters⟩
        | value :: later =>
          (bound dialect layout later (parameters ++ value.expansion)).after
            (placeholders dialect parameters.length value).toList := by
  cases values with
  | nil => simp [bound, mismatch?]
  | cons value later =>
    have same : mismatch? (holes layout + 1) (later.length + 1)
        = mismatch? (holes layout) later.length := by
      simp [mismatch?]
    have enough : (placeholdersFrom dialect (parameters.length + 1) value.arity).length
        = holes (spread value.arity) := by simp
    have position : (parameters ++ value.expansion).length + 1
        = parameters.length + 1 + value.arity := by
      rw [List.length_append, Value.arity]
      omega
    have count : (value.expansion ++ later.flatMap Value.expansion).length
        = value.arity + (later.flatMap Value.expansion).length := List.length_append
    simp only [bound, Bound.after, holes_hole, List.length_cons, same, List.map_cons, count, expand,
      placeholdersFrom_add, fill_append _ _ enough, position, placeholders_eq_fill,
      List.take_succ_cons, List.flatMap_cons, List.append_assoc]
    split <;> rfl

/-- Binding gives what the tokens of the text and the values say. -/
theorem bindFrom_eq (dialect : Dialect) (quotes : Option Char) (values parameters : List Value)
    (text : List Char) :
    bindFrom dialect quotes values parameters text
      = bound dialect (tokens quotes text) values parameters := by
  induction text generalizing quotes values parameters with
  | nil =>
    cases values with
    | nil => simp [bindFrom, tokens, bound, mismatch?, expand, fill]
    | cons value later => simp [bindFrom, tokens, bound, mismatch?]
  | cons c rest ih =>
    rw [bindFrom.eq_def, tokens]
    by_cases hole : c = '?' ∧ quotes = none
    · obtain ⟨rfl, rfl⟩ := hole
      have outside : quotesAfter none '?' = none := rfl
      simp only [and_self, if_true, outside, bound_hole]
      cases values with
      | nil => rfl
      | cons value later => simp only [ih]
    · simp only [if_neg hole, bound_char, ih]

/-- Binding a fragment gives what its layout and the values say. -/
theorem bind_eq (dialect : Dialect) (fragment : String) (values parameters : List Value) :
    bind dialect fragment values parameters
      = { result := (bound dialect (layout fragment) values parameters).result.map String.ofList
          parameters := (bound dialect (layout fragment) values parameters).parameters } := by
  rw [bind, bindFrom_eq, tokens_eq_layoutOf]
  rfl

end Fragment

end Listing
