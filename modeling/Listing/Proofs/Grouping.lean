import Listing.Proofs.Rendering

/-!
# Conditions stay in their parentheses

A scan goes through a text and keeps track of the open quote and of the number of parentheses that
are open outside quotes. It divides the text into groups, which are the texts between a parenthesis
outside all others and the one that closes it, and into what stands outside the groups. Binding
changes neither the quotes nor the parentheses of a fragment. Main statements: `balanced_boundText`
says that a balanced condition is balanced after binding, `parts_intercalate` that the scan finds every one
of several balanced texts in its own group, and `render_grouped` that a query with several balanced
conditions is the conjunction of just these, whatever stands in them.
-/
namespace Listing

open Fragment (Token fill expand spread tokens placeholdersFrom)

/-- Where a scan of a text stands. -/
structure Nesting where
  /-- The quote that is open. -/
  quotes : Option Char := none
  /-- The number of parentheses that are open outside quotes. -/
  depth : Nat := 0
  deriving DecidableEq, Repr

/-- A part of a text, as the parentheses outside quotes divide it. -/
inductive Part where
  /-- A text outside all parentheses. -/
  | outside (text : List Char)
  /-- The text between a parenthesis outside all others and the one that closes it. -/
  | group (text : List Char)
  deriving DecidableEq, Repr

namespace Nesting

/-- The nesting after a character; none when a parenthesis closes that is not open. -/
def step (nesting : Nesting) (c : Char) : Option Nesting :=
  if nesting.quotes = none ∧ c = '(' then some ⟨none, nesting.depth + 1⟩
  else if nesting.quotes = none ∧ c = ')' then
    if nesting.depth = 0 then none else some ⟨none, nesting.depth - 1⟩
  else some ⟨Fragment.quotesAfter nesting.quotes c, nesting.depth⟩

/-- The nesting after a text. -/
def run (nesting : Nesting) (text : List Char) : Option Nesting := text.foldlM step nesting

/-- A text that closes the quotes and the parentheses that it opens, and no others. -/
def Balanced (text : List Char) : Prop := run {} text = some {}

instance (text : List Char) : Decidable (Balanced text) :=
  inferInstanceAs (Decidable (run {} text = some {}))

/-- The part that a text outside parentheses is, unless it is empty. -/
def outside (text : List Char) : List Part := if text = [] then [] else [.outside text]

/-- The parts of a text from where a scan stands, when the text since the last border is known. A
border is a parenthesis that opens outside all others, or the one that closes it. -/
def partsFrom : Nesting → List Char → List Char → Option (List Part)
  | nesting, before, [] => if nesting = {} then some (outside before) else none
  | nesting, before, c :: rest =>
    match nesting.step c with
    | none => none
    | some next =>
      if nesting.depth = 0 ∧ next.depth = 1 then
        (partsFrom next [] rest).map (outside before ++ ·)
      else if nesting.depth = 1 ∧ next.depth = 0 then
        (partsFrom next [] rest).map (.group before :: ·)
      else partsFrom next (before ++ [c]) rest

/-- The parts of a text; none when its quotes or its parentheses do not match. -/
def parts (text : List Char) : Option (List Part) := partsFrom {} [] text

/-! ## Steps of a scan -/

/-- A character that is neither a quote nor a parenthesis. -/
def Ordinary (c : Char) : Prop := c ∉ ['\x22', '\x60', '\x27', '(', ')']

instance (c : Char) : Decidable (Ordinary c) := inferInstanceAs (Decidable (c ∉ _))

/-- An ordinary character outside quotes changes nothing. -/
theorem step_ordinary {depth : Nat} {c : Char} (ordinary : Ordinary c) :
    step ⟨none, depth⟩ c = some ⟨none, depth⟩ := by
  simp only [Ordinary, List.mem_cons, List.not_mem_nil, or_false, not_or] at ordinary
  simp [step, Fragment.quotesAfter, Fragment.isQuote, ordinary]

/-- A text leads somewhere when its first character does and the rest leads on from there. -/
theorem run_cons_eq_some_iff {nesting after : Nesting} {c : Char} {rest : List Char} :
    nesting.run (c :: rest) = some after
      ↔ ∃ next, nesting.step c = some next ∧ next.run rest = some after := by
  rw [run, List.foldlM_cons]
  exact Option.bind_eq_some_iff

/-- What follows a text goes on where the text leads. -/
theorem run_append {nesting middle : Nesting} {first : List Char} (later : List Char)
    (led : nesting.run first = some middle) :
    nesting.run (first ++ later) = middle.run later := by
  rw [run, List.foldlM_append]
  change (nesting.run first).bind _ = _
  rw [led]
  rfl

/-- Ordinary characters outside quotes change nothing. -/
theorem run_ordinary {depth : Nat} {text : List Char} (ordinary : ∀ c ∈ text, Ordinary c) :
    run ⟨none, depth⟩ text = some ⟨none, depth⟩ := by
  induction text with
  | nil => rfl
  | cons c rest ih =>
    have later := ih fun c member => ordinary c (List.mem_cons_of_mem _ member)
    exact run_cons_eq_some_iff.2 ⟨_, step_ordinary (ordinary c List.mem_cons_self), later⟩

/-- A scan keeps track of quotes as binding does. -/
theorem quotes_of_step {nesting next : Nesting} {c : Char} (stepped : nesting.step c = some next) :
    next.quotes = Fragment.quotesAfter nesting.quotes c := by
  obtain ⟨quotes, depth⟩ := nesting
  rw [step] at stepped
  split at stepped
  · rename_i opening
    obtain ⟨rfl, rfl⟩ := opening
    obtain rfl := Option.some.inj stepped
    rfl
  · split at stepped
    · rename_i closing
      obtain ⟨rfl, rfl⟩ := closing
      split at stepped
      · contradiction
      · obtain rfl := Option.some.inj stepped
        rfl
    · obtain rfl := Option.some.inj stepped
      rfl

/-- One more open parenthesis around a text stays open. -/
theorem step_deeper {nesting next : Nesting} {c : Char} (stepped : nesting.step c = some next) :
    step ⟨nesting.quotes, nesting.depth + 1⟩ c = some ⟨next.quotes, next.depth + 1⟩ := by
  rw [step] at stepped ⊢
  split at stepped
  · rename_i opening
    obtain rfl := Option.some.inj stepped
    rw [if_pos opening]
  · rename_i notOpening
    rw [if_neg notOpening]
    split at stepped
    · rename_i closing
      rw [if_pos closing]
      split at stepped
      · contradiction
      · rename_i deep
        obtain rfl := Option.some.inj stepped
        simp only [Nat.add_one_ne_zero, if_false, Nat.add_one_sub_one, Option.some.injEq,
          Nesting.mk.injEq, true_and]
        omega
    · rename_i notClosing
      obtain rfl := Option.some.inj stepped
      rw [if_neg notClosing]

/-! ## Binding keeps the nesting -/

/-- The nesting after a token; a hole stands outside quotes. -/
def stepToken (nesting : Nesting) : Token → Option Nesting
  | .char c => nesting.step c
  | .hole => if nesting.quotes = none then some nesting else none

/-- The nesting after a layout. -/
def runTokens (nesting : Nesting) (layout : List Token) : Option Nesting :=
  layout.foldlM stepToken nesting

/-- A layout leads somewhere when its first token does and the rest leads on from there. -/
theorem runTokens_cons_eq_some_iff {nesting after : Nesting} {token : Token}
    {rest : List Token} :
    nesting.runTokens (token :: rest) = some after
      ↔ ∃ next, nesting.stepToken token = some next ∧ next.runTokens rest = some after := by
  rw [runTokens, List.foldlM_cons]
  exact Option.bind_eq_some_iff

/-- What follows a layout goes on where the layout leads. -/
theorem runTokens_append {nesting middle : Nesting} {first : List Token} (later : List Token)
    (led : nesting.runTokens first = some middle) :
    nesting.runTokens (first ++ later) = middle.runTokens later := by
  rw [runTokens, List.foldlM_append]
  change (nesting.runTokens first).bind _ = _
  rw [led]
  rfl

/-- A hole stands outside quotes and changes nothing. -/
theorem stepToken_hole_eq_some_iff {nesting next : Nesting} :
    nesting.stepToken .hole = some next ↔ nesting.quotes = none ∧ nesting = next := by
  rw [stepToken, Option.ite_none_right_eq_some, Option.some.injEq]

/-- The tokens of a text lead where the text leads. -/
theorem runTokens_tokens (nesting : Nesting) (text : List Char) :
    nesting.runTokens (tokens nesting.quotes text) = nesting.run text := by
  induction text generalizing nesting with
  | nil => rfl
  | cons c rest ih =>
    have same : nesting.stepToken (if c = '?' ∧ nesting.quotes = none then .hole else .char c)
        = nesting.step c := by
      split
      · rename_i hole
        obtain ⟨quotes, depth⟩ := nesting
        obtain ⟨rfl, rfl⟩ := hole
        rw [step_ordinary (by decide)]
        rfl
      · rfl
    rw [tokens, runTokens, run, List.foldlM_cons, List.foldlM_cons, same]
    cases stepped : nesting.step c with
    | none => rfl
    | some next =>
      rw [← quotes_of_step stepped]
      exact ih next

/-- What a hole is spread to outside quotes changes nothing. -/
theorem runTokens_spread {depth items : Nat} :
    runTokens ⟨none, depth⟩ (spread items) = some ⟨none, depth⟩ := by
  have comma : step ⟨none, depth⟩ ',' = some ⟨none, depth⟩ := step_ordinary (by decide)
  have space : step ⟨none, depth⟩ ' ' = some ⟨none, depth⟩ := step_ordinary (by decide)
  induction items using Fragment.spread.induct with
  | case1 => rfl
  | case2 => rfl
  | case3 items ih =>
    rw [spread]
    simp only [runTokens, List.foldlM_cons, stepToken, if_true, Option.bind_eq_bind,
      Option.bind_some, comma, space]
    exact ih

/-- Spreading the holes of a layout leads where the layout leads. -/
theorem runTokens_expand {nesting after : Nesting} {arities : List Nat} {layout : List Token}
    (led : nesting.runTokens layout = some after) :
    nesting.runTokens (expand arities layout) = some after := by
  induction layout generalizing nesting arities with
  | nil => exact led
  | cons token rest ih =>
    obtain ⟨next, stepped, later⟩ := runTokens_cons_eq_some_iff.1 led
    cases token with
    | char c => exact runTokens_cons_eq_some_iff.2 ⟨next, stepped, ih later⟩
    | hole =>
      cases arities with
      | nil => exact runTokens_cons_eq_some_iff.2 ⟨next, stepped, ih later⟩
      | cons arity arities =>
        obtain ⟨quotes, depth⟩ := nesting
        obtain ⟨rfl, rfl⟩ := stepToken_hole_eq_some_iff.1 stepped
        rw [expand, runTokens_append _ runTokens_spread]
        exact ih later

/-- Ordinary texts in the holes of a layout lead where the layout leads. -/
theorem run_fill {nesting after : Nesting} {texts : List String} {layout : List Token}
    (ordinary : ∀ text ∈ texts, ∀ c ∈ text.toList, Ordinary c)
    (led : nesting.runTokens layout = some after) :
    nesting.run (fill texts layout) = some after := by
  induction layout generalizing nesting texts with
  | nil =>
    cases texts with
    | nil => exact led
    | cons text texts => exact led
  | cons token rest ih =>
    obtain ⟨next, stepped, later⟩ := runTokens_cons_eq_some_iff.1 led
    cases token with
    | char c => exact run_cons_eq_some_iff.2 ⟨next, stepped, ih ordinary later⟩
    | hole =>
      obtain ⟨quotes, depth⟩ := nesting
      obtain ⟨rfl, rfl⟩ := stepToken_hole_eq_some_iff.1 stepped
      cases texts with
      | nil => exact ih ordinary later
      | cons text texts =>
        rw [fill, run_append _ (run_ordinary (ordinary text List.mem_cons_self))]
        exact ih (fun text member => ordinary text (List.mem_cons_of_mem _ member)) later

/-- Placeholders are made of ordinary characters. -/
theorem ordinary_placeholder {dialect : Dialect} {position : Nat} {c : Char}
    (member : c ∈ (dialect.placeholder position).toList) : Ordinary c := by
  have currency : Ordinary '$' := by decide
  have mark : Ordinary '?' := by decide
  cases dialect with
  | postgresql =>
    rw [Dialect.placeholder, String.toList_append, List.mem_append] at member
    rcases member with first | digit
    · obtain rfl := List.mem_singleton.1 first
      exact currency
    · have decimal : c.isDigit :=
        Nat.isDigit_of_mem_toDigits (b := 10) (by decide) (by decide) (by simpa using digit)
      simp only [Ordinary, List.mem_cons, List.not_mem_nil, or_false]
      rintro (rfl | rfl | rfl | rfl | rfl) <;> contradiction
  | mysql =>
    obtain rfl : c = '?' := by simpa [Dialect.placeholder] using member
    exact mark
  | sqlite =>
    obtain rfl : c = '?' := by simpa [Dialect.placeholder] using member
    exact mark

/-- A balanced condition is balanced after binding. -/
theorem balanced_boundText {dialect : Dialect} {clause : Clause} {position count : Nat}
    (balanced : Balanced clause.sql.toList) :
    Balanced (fill (placeholdersFrom dialect position count) clause.layout) := by
  refine run_fill ?_ ?_
  · intro text member c inside
    obtain ⟨position, -, rfl⟩ := List.mem_map.1 member
    exact ordinary_placeholder inside
  · refine runTokens_expand ?_
    rw [Fragment.layout, ← Fragment.tokens_eq_layoutOf]
    exact (runTokens_tokens {} clause.sql.toList).trans balanced

/-! ## Groups -/

/-- A text in parentheses. -/
def parenthesised (text : String) : String := "(" ++ text ++ ")"

/-- The parts of a conjunction of texts in parentheses: a group for each of them, and the word
between neighbours. -/
def conjunctionParts (texts : List String) : List Part :=
  (texts.map fun text => Part.group text.toList).intersperse (.outside " AND ".toList)

/-- Ordinary text outside parentheses belongs to what stands before it. -/
theorem partsFrom_ordinary {before text later : List Char} (ordinary : ∀ c ∈ text, Ordinary c) :
    partsFrom {} before (text ++ later) = partsFrom {} (before ++ text) later := by
  induction text generalizing before with
  | nil => rw [List.nil_append, List.append_nil]
  | cons c rest ih =>
    have stays : step {} c = some {} := step_ordinary (ordinary c List.mem_cons_self)
    rw [List.cons_append, partsFrom, stays]
    simp only [Nat.zero_ne_one, and_false, false_and, if_false]
    rw [ih fun c member => ordinary c (List.mem_cons_of_mem _ member), List.append_assoc]
    rfl

/-- The rest of a balanced text, and the parenthesis that closes after it, end a group. -/
theorem partsFrom_group {nesting : Nesting} {text : List Char} (before later : List Char)
    (balanced : nesting.run text = some {}) :
    partsFrom ⟨nesting.quotes, nesting.depth + 1⟩ before (text ++ ')' :: later)
      = (partsFrom {} [] later).map (.group (before ++ text) :: ·) := by
  induction text generalizing nesting before with
  | nil =>
    obtain rfl := Option.some.inj balanced
    rw [List.append_nil]
    rfl
  | cons c rest ih =>
    obtain ⟨next, stepped, closes⟩ := run_cons_eq_some_iff.1 balanced
    rw [List.cons_append, partsFrom, step_deeper stepped]
    simp only [Nat.add_one_ne_zero, false_and, and_false, if_false]
    rw [ih _ closes, List.append_assoc]
    rfl

/-- A balanced text in parentheses is a group. -/
theorem partsFrom_parenthesised (before later : List Char) {text : String}
    (balanced : Balanced text.toList) :
    partsFrom {} before ((parenthesised text).toList ++ later)
      = (partsFrom {} [] later).map (outside before ++ .group text.toList :: ·) := by
  have opens : step {} '(' = some ⟨none, 1⟩ := rfl
  have closes := partsFrom_group [] later balanced
  have spelled : (parenthesised text).toList ++ later = '(' :: (text.toList ++ ')' :: later) := by
    simp [parenthesised]
  rw [spelled, partsFrom, opens]
  simp only [and_self, if_true]
  rw [List.nil_append] at closes
  rw [show (⟨none, 1⟩ : Nesting) = ⟨none, 0 + 1⟩ from rfl, closes, Option.map_map]
  rfl

/-- A scan finds each of several balanced texts in a group of its own. -/
theorem partsFrom_intercalate (before : List Char) {text : String} {others : List String}
    (balanced : ∀ one ∈ text :: others, Balanced one.toList) :
    partsFrom {} before (" AND ".intercalate ((text :: others).map parenthesised)).toList
      = some (outside before ++ conjunctionParts (text :: others)) := by
  have first := balanced text List.mem_cons_self
  induction others generalizing before text with
  | nil =>
    have grouped := partsFrom_parenthesised before [] first
    rw [List.append_nil] at grouped
    exact grouped
  | cons next rest ih =>
    have later (one : String) (member : one ∈ next :: rest) : Balanced one.toList :=
      balanced one (List.mem_cons_of_mem _ member)
    have joint : ∀ c ∈ " AND ".toList, Ordinary c := by simp [Ordinary]
    have separated := ih " AND ".toList later (later next List.mem_cons_self)
    rw [List.map_cons, List.map_cons, String.intercalate_cons_cons, ← List.map_cons, String.toList_append,
      String.toList_append, List.append_assoc, partsFrom_parenthesised before _ first,
      partsFrom_ordinary joint, List.nil_append, separated]
    rfl

/-- A scan finds each of several balanced texts in a group of its own. -/
theorem parts_intercalate {texts : List String} (balanced : ∀ text ∈ texts, Balanced text.toList) :
    parts (" AND ".intercalate (texts.map parenthesised)).toList = some (conjunctionParts texts) := by
  cases texts with
  | nil => rfl
  | cons text others => exact partsFrom_intercalate [] balanced

/-- The text of a part that is a group. -/
def Part.group? : Part → Option (List Char)
  | .outside _ => none
  | .group text => some text

/-- The groups of a conjunction are its texts. -/
theorem filterMap_conjunctionParts (texts : List String) :
    (conjunctionParts texts).filterMap Part.group? = texts.map String.toList := by
  induction texts with
  | nil => rfl
  | cons text others ih =>
    cases others with
    | nil => rfl
    | cons next rest =>
      have cut : conjunctionParts (text :: next :: rest)
          = .group text.toList :: .outside " AND ".toList :: conjunctionParts (next :: rest) := rfl
      rw [cut]
      change text.toList :: (conjunctionParts (next :: rest)).filterMap Part.group? = _
      rw [ih]
      rfl

/-- Texts are determined by the parts of their conjunction. -/
theorem conjunctionParts_injective {first second : List String}
    (same : conjunctionParts first = conjunctionParts second) : first = second := by
  have groups := congrArg (List.filterMap Part.group?) same
  rw [filterMap_conjunctionParts, filterMap_conjunctionParts] at groups
  exact List.map_injective_iff.2 (fun _ _ => String.toList_injective) groups

end Nesting

namespace Select

open Nesting (Balanced parts parenthesised conjunctionParts)

/-- The bound text of a condition among others counts the parameters of those before it. -/
theorem getElem?_boundTexts (dialect : Dialect) (count : Nat) (clauses : List Clause)
    (index : Nat) :
    (boundTexts dialect count clauses)[index]? = clauses[index]?.map fun clause =>
      String.ofList (fill
        (placeholdersFrom dialect
          (count + ((clauses.take index).flatMap Clause.parameters).length + 1)
          clause.parameters.length)
        clause.layout) := by
  induction clauses generalizing count index with
  | nil => rfl
  | cons clause rest ih =>
    cases index with
    | zero => rfl
    | succ index =>
      rw [boundTexts, List.getElem?_cons_succ, List.getElem?_cons_succ, ih, List.take_succ_cons,
        List.flatMap_cons, List.length_append, Nat.add_assoc count]

/-- There is a bound text for each condition. -/
theorem length_boundTexts (dialect : Dialect) (count : Nat) (clauses : List Clause) :
    (boundTexts dialect count clauses).length = clauses.length := by
  induction clauses generalizing count with
  | nil => rfl
  | cons clause rest ih => rw [boundTexts, List.length_cons, ih, List.length_cons]

/-- Balanced conditions have balanced bound texts. -/
theorem balanced_boundTexts {dialect : Dialect} {count : Nat} {clauses : List Clause}
    (balanced : ∀ clause ∈ clauses, Balanced clause.sql.toList) :
    ∀ text ∈ boundTexts dialect count clauses, Balanced text.toList := by
  intro text member
  obtain ⟨index, found⟩ := List.mem_iff_getElem?.1 member
  rw [getElem?_boundTexts] at found
  obtain ⟨clause, there, rfl⟩ := Option.map_eq_some_iff.1 found
  rw [String.toList_ofList]
  exact Nesting.balanced_boundText (balanced clause (List.mem_of_getElem? there))

/-- Two or more conditions are joined in parentheses. -/
theorem conjunction_of_two_le {texts : List String} (several : 2 ≤ texts.length) :
    conjunction texts = " AND ".intercalate (texts.map parenthesised) := by
  cases texts with
  | nil => contradiction
  | cons text others =>
    cases others with
    | nil => contradiction
    | cons next rest => rfl

/-- When two or more balanced conditions render, a scan finds a group for each of them with `AND`
between neighbours, and no other balanced texts have the same conjunction. -/
theorem render_grouped (query : Select) (several : 2 ≤ query.clauses.length)
    (balanced : ∀ clause ∈ query.clauses, Balanced clause.sql.toList) {sql : String}
    {parameters : List Value} (rendered : query.render = .ok (sql, parameters)) :
    ∃ condition texts,
      sql = "SELECT * FROM " ++ query.dialect.quote query.table ++ " WHERE " ++ condition
          ++ query.tail
        ∧ parts condition.toList = some (conjunctionParts texts)
        ∧ texts.length = query.clauses.length
        ∧ (∀ index clause, query.clauses[index]? = some clause →
            ∃ text, texts[index]? = some text
              ∧ (Fragment.bind query.dialect clause.sql clause.values
                  ((query.clauses.take index).flatMap Clause.parameters)).result = .ok text)
        ∧ ∀ others : List String, (∀ other ∈ others, Balanced other.toList) →
            " AND ".intercalate (others.map parenthesised) = condition → others = texts := by
  have sound := (render_eq_ok_iff.1 rendered).1
  let texts := boundTexts query.dialect 0 query.clauses
  have enough : 2 ≤ texts.length := by rwa [length_boundTexts]
  have closed : ∀ text ∈ texts, Balanced text.toList := balanced_boundTexts balanced
  have found := Nesting.parts_intercalate closed
  refine ⟨" AND ".intercalate (texts.map parenthesised), texts, ?_, found,
    length_boundTexts query.dialect 0 query.clauses, ?_, ?_⟩
  · have faultless : query.clauses.findSome? Clause.fault? = none := by
      rw [List.findSome?_eq_none_iff]
      exact fun clause member => Clause.fault?_eq_none_iff.2 (sound clause member)
    have some : texts.isEmpty = false := by
      cases empty : texts with
      | nil => simp [empty] at enough
      | cons text others => rfl
    rw [render, bindClauses_eq, faultless] at rendered
    obtain ⟨text, -⟩ := Prod.mk.inj (Except.ok.inj rendered)
    rw [← text, ← conjunction_of_two_le enough]
    change _ ++ (if texts.isEmpty then "" else " WHERE " ++ conjunction texts) ++ _ = _
    rw [some, if_neg Bool.false_ne_true, ← String.append_assoc]
  · intro index clause there
    have fits : Fragment.mismatch? clause.holes clause.values.length = none :=
      Option.map_eq_none_iff.1
        (Clause.fault?_eq_none_iff.2 (sound clause (List.mem_of_getElem? there)))
    have own := getElem?_boundTexts query.dialect 0 query.clauses index
    rw [there, Option.map_some, Nat.zero_add] at own
    refine ⟨_, own, ?_⟩
    rw [bind_clause, fits]
  · intro others matched same
    have divided := Nesting.parts_intercalate matched
    rw [same, found] at divided
    exact Nesting.conjunctionParts_injective (Option.some.inj divided).symm

/-- A condition that holds an alternative, and one that holds a quoted parenthesis and an empty
list, stay in groups of their own. -/
theorem render_grouped_alternative :
    let query : Select := {
      table := "t"
      clauses := [
        ⟨"a = ? OR b IN (?)", [.int 1, .list [.int 2, .int 3]]⟩,
        ⟨"c LIKE ')' OR d IN (?)", [.list []]⟩] }
    let sql := "SELECT * FROM \"t\" WHERE (a = $1 OR b IN ($2, $3)) AND (c LIKE ')' OR d IN (NULL))"
    2 ≤ query.clauses.length ∧ (∀ clause ∈ query.clauses, Balanced clause.sql.toList)
      ∧ query.render = .ok (sql, [.int 1, .int 2, .int 3])
      ∧ ∃ condition texts, sql = "SELECT * FROM \"t\" WHERE " ++ condition
          ∧ parts condition.toList = some (conjunctionParts texts) ∧ texts.length = 2 := by
  intro query sql
  have balanced : ∀ clause ∈ query.clauses, Balanced clause.sql.toList := by decide
  have rendered : query.render = .ok (sql, [.int 1, .int 2, .int 3]) :=
    render_eq_ok_iff.2 ⟨by decide +kernel, by decide +kernel, rfl⟩
  obtain ⟨condition, texts, spelled, found, count, -⟩ :=
    render_grouped query (by decide) balanced rendered
  have front : "SELECT * FROM " ++ query.dialect.quote query.table ++ " WHERE "
      = "SELECT * FROM \"t\" WHERE " := by decide
  have noTail : query.tail = "" := rfl
  rw [front, noTail, String.append_empty] at spelled
  exact ⟨by decide, balanced, rendered, condition, texts, spelled, found, count⟩

end Select

end Listing
