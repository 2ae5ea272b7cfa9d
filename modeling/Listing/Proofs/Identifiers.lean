import Listing.Filter
import Mathlib.Data.List.Basic

/-!
# Quoted identifiers read back

An identifier in quotes is read by the rule of SQL: the quote character opens it, a doubled one
stands for one of its characters, and a single one closes it. So read, a quoted identifier is taken
to its end and no further and gives the identifier that was quoted, and nothing but quoted
identifiers is read. Main statements: `readQuoted_eq_some_iff` for what is read as an identifier,
`readColumn_qualify` for a column with or without an alias, `read_quoted` for both and for which
columns are equal, and `Filter.column_injective` for the columns of the fields of a filter.
-/
namespace Listing

namespace Dialect

/-- Read on inside the quotes of an identifier up to the quote character that closes them: the rest
of the identifier and what follows it. -/
def readInside (mark : Char) : List Char → Option (List Char × List Char)
  | [] => none
  | [c] => if c = mark then some ([], []) else none
  | c :: next :: rest =>
    if c = mark then
      if next = mark then (readInside mark rest).map fun read => (mark :: read.1, read.2)
      else some ([], next :: rest)
    else (readInside mark (next :: rest)).map fun read => (c :: read.1, read.2)

/-- Read a quoted identifier at the front of a text: the identifier and what follows it. -/
def readQuoted (dialect : Dialect) : List Char → Option (String × List Char)
  | [] => none
  | c :: rest =>
    if c = dialect.quoteChar then
      (readInside dialect.quoteChar rest).map fun read => (String.ofList read.1, read.2)
    else none

/-- Read a text that is a quoted identifier, or two with a dot between them: the first of two as an
alias, and the last. -/
def readColumn (dialect : Dialect) (text : String) : Option (Option String × String) :=
  match dialect.readQuoted text.toList with
  | some (column, []) => some (none, column)
  | some (table, '.' :: rest) =>
    match dialect.readQuoted rest with
    | some (column, []) => some (some table, column)
    | _ => none
  | _ => none

/-- The alias that qualifies a column; an empty one does not. -/
def effective (qualifier : Option String) : Option String :=
  qualifier.filter fun table => !table.isEmpty

/-- An alias qualifies columns unless it is empty. -/
theorem effective_eq (qualifier : Option String) :
    effective qualifier
      = if qualifier.getD "" = "" then none else some (qualifier.getD "") := by
  cases qualifier with
  | none => rfl
  | some table =>
    rw [effective, Option.filter_some, Option.getD_some]
    by_cases empty : table = ""
    · rw [if_pos empty, empty]
      rfl
    · rw [if_neg empty, if_pos (by simpa using empty)]

/-- Two aliases qualify columns alike when they are equal, and no alias is equal to an empty one. -/
theorem effective_eq_iff {first second : Option String} :
    effective first = effective second ↔ first.getD "" = second.getD "" := by
  constructor
  · intro same
    have text (qualifier : Option String) : (effective qualifier).getD "" = qualifier.getD "" := by
      rw [effective_eq]
      split <;> simp [*]
    rw [← text first, same, text]
  · intro same
    rw [effective_eq, effective_eq, same]

/-! ## Inside the quotes -/

variable {mark c : Char} {text name rest : List Char}

/-- A character that is not the quote character stands for itself. -/
theorem readInside_of_ne (other : c ≠ mark) (rest : List Char) :
    readInside mark (c :: rest) = (readInside mark rest).map fun read => (c :: read.1, read.2) := by
  cases rest with
  | nil => exact if_neg other
  | cons next rest => rw [readInside, if_neg other]

/-- A doubled quote character stands for one. -/
theorem readInside_twice (mark : Char) (rest : List Char) :
    readInside mark (mark :: mark :: rest)
      = (readInside mark rest).map fun read => (mark :: read.1, read.2) := by
  rw [readInside, if_pos rfl, if_pos rfl]

/-- A quote character that no other follows closes the quotes. -/
theorem readInside_single (single : rest.head? ≠ some mark) :
    readInside mark (mark :: rest) = some ([], rest) := by
  cases rest with
  | nil => rw [readInside, if_pos rfl]
  | cons next rest =>
    have other : next ≠ mark := fun same => single (congrArg some same)
    rw [readInside, if_pos rfl, if_neg other]

/-- A text whose quote characters are doubled is read back up to a single one after it. -/
theorem readInside_doubled (name : List Char) (single : rest.head? ≠ some mark) :
    readInside mark (doubled mark name ++ mark :: rest) = some (name, rest) := by
  induction name with
  | nil => exact readInside_single single
  | cons c name ih =>
    by_cases same : c = mark
    · subst same
      rw [doubled_cons_self, List.cons_append, List.cons_append, readInside_twice, ih]
      rfl
    · rw [doubled_cons_of_ne same, List.cons_append, readInside_of_ne same, ih]
      rfl

/-- What is read inside quotes is written with its quote characters doubled, and the one behind it
is single. -/
theorem eq_of_readInside (read : readInside mark text = some (name, rest)) :
    text = doubled mark name ++ mark :: rest ∧ rest.head? ≠ some mark := by
  fun_induction readInside mark text generalizing name rest with
  | case1 => contradiction
  | case2 => -- the last character closes the quotes
    obtain ⟨rfl, rfl⟩ := Prod.mk.inj (Option.some.inj read)
    exact ⟨rfl, nofun⟩
  | case3 => contradiction
  | case4 later ih => -- two quote characters
    obtain ⟨⟨inner, behind⟩, found, same⟩ := Option.map_eq_some_iff.1 read
    obtain ⟨rfl, rfl⟩ := Prod.mk.inj same
    obtain ⟨rfl, single⟩ := ih found
    exact ⟨by rw [doubled_cons_self]; rfl, single⟩
  | case5 next later other => -- a single one before another character
    obtain ⟨rfl, rfl⟩ := Prod.mk.inj (Option.some.inj read)
    exact ⟨rfl, fun same => other (Option.some.inj same)⟩
  | case6 c next later other ih => -- an ordinary character
    obtain ⟨⟨inner, behind⟩, found, same⟩ := Option.map_eq_some_iff.1 read
    obtain ⟨rfl, rfl⟩ := Prod.mk.inj same
    obtain ⟨written, single⟩ := ih found
    exact ⟨by rw [doubled_cons_of_ne other, written]; rfl, single⟩

/-! ## Identifiers and columns -/

variable (dialect : Dialect)

/-- An identifier is read at the front of a text exactly when it stands there in quotes and no quote
character follows. -/
theorem readQuoted_eq_some_iff {text rest : List Char} {name : String} :
    dialect.readQuoted text = some (name, rest)
      ↔ text = (dialect.quote name).toList ++ rest ∧ rest.head? ≠ some dialect.quoteChar := by
  have spelled : (dialect.quote name).toList ++ rest
      = dialect.quoteChar :: (doubled dialect.quoteChar name.toList
          ++ dialect.quoteChar :: rest) := by
    rw [quote, String.toList_ofList, List.cons_append, List.cons_append, List.append_assoc]
    rfl
  rw [spelled]
  constructor
  · intro read
    cases text with
    | nil => contradiction
    | cons c inside =>
      rw [readQuoted] at read
      split at read
      · rename_i opens
        obtain ⟨⟨inner, behind⟩, found, same⟩ := Option.map_eq_some_iff.1 read
        obtain ⟨rfl, rfl⟩ := Prod.mk.inj same
        obtain ⟨rfl, single⟩ := eq_of_readInside found
        exact ⟨by rw [opens, String.toList_ofList], single⟩
      · contradiction
  · rintro ⟨rfl, single⟩
    rw [readQuoted, if_pos rfl, readInside_doubled _ single, Option.map_some, String.ofList_toList]

/-- An identifier in quotes is read back before anything that is no quote character. -/
theorem readQuoted_quote (name : String) (rest : List Char)
    (single : rest.head? ≠ some dialect.quoteChar) :
    dialect.readQuoted ((dialect.quote name).toList ++ rest) = some (name, rest) :=
  dialect.readQuoted_eq_some_iff.2 ⟨rfl, single⟩

/-- An identifier in quotes is read back as a column without an alias. -/
theorem readColumn_quote (name : String) :
    dialect.readColumn (dialect.quote name) = some (none, name) := by
  have whole := dialect.readQuoted_quote name [] nofun
  rw [List.append_nil] at whole
  rw [readColumn, whole]

/-- A column is its name in quotes, after the quoted alias if one qualifies it. -/
theorem qualify_eq (qualifier : Option String) (column : String) :
    dialect.qualify qualifier column
      = (effective qualifier).elim (dialect.quote column) fun table =>
          dialect.quote table ++ "." ++ dialect.quote column := by
  cases qualifier with
  | none => rfl
  | some table =>
    rw [qualify, effective, Option.filter_some]
    cases table.isEmpty <;> rfl

/-- A column begins with a quote character. -/
theorem head?_qualify (qualifier : Option String) (column : String) :
    (dialect.qualify qualifier column).toList.head? = some dialect.quoteChar := by
  rw [qualify_eq]
  cases effective qualifier with
  | none => simp [quote]
  | some table => simp [quote]

/-- A column is read back with the alias that qualifies it. -/
theorem readColumn_qualify (qualifier : Option String) (column : String) :
    dialect.readColumn (dialect.qualify qualifier column)
      = some (effective qualifier, column) := by
  rw [qualify_eq]
  cases effective qualifier with
  | none => exact dialect.readColumn_quote column
  | some table =>
    have dot : ('.' :: (dialect.quote column).toList).head? ≠ some dialect.quoteChar := by
      rw [List.head?_cons]
      cases dialect <;> decide
    have first := dialect.readQuoted_quote table _ dot
    have second := dialect.readQuoted_quote column [] nofun
    rw [List.append_nil] at second
    have text : (dialect.quote table ++ "." ++ dialect.quote column).toList
        = (dialect.quote table).toList ++ '.' :: (dialect.quote column).toList := by
      simp
    simp only [readColumn, Option.elim_some, text, first, second]

/-- Two columns are equal exactly when their names are and the aliases that qualify them. -/
theorem qualify_eq_iff {first second : Option String} {column other : String} :
    dialect.qualify first column = dialect.qualify second other
      ↔ column = other ∧ effective first = effective second := by
  constructor
  · intro same
    have read := dialect.readColumn_qualify first column
    rw [same, readColumn_qualify] at read
    obtain ⟨aliases, names⟩ := Prod.mk.inj (Option.some.inj read)
    exact ⟨names.symm, aliases.symm⟩
  · rintro ⟨rfl, aliases⟩
    rw [qualify_eq, qualify_eq, aliases]

/-- An identifier in quotes, and a column with or without an alias, is read back whatever characters
it holds, and nothing but an identifier in quotes is read. -/
theorem read_quoted :
    (∀ name, dialect.readQuoted (dialect.quote name).toList = some (name, []))
      ∧ (∀ text name rest, dialect.readQuoted text = some (name, rest)
          ↔ text = (dialect.quote name).toList ++ rest ∧ rest.head? ≠ some dialect.quoteChar)
      ∧ (∀ column, dialect.readColumn (dialect.qualify none column) = some (none, column))
      ∧ (∀ table column, dialect.readColumn (dialect.qualify (some table) column)
          = some (if table = "" then none else some table, column))
      ∧ ∀ first second column other,
          dialect.qualify first column = dialect.qualify second other
            ↔ column = other ∧ first.getD "" = second.getD "" := by
  refine ⟨fun name => ?_, fun text name rest => dialect.readQuoted_eq_some_iff,
    dialect.readColumn_qualify none, fun table column => ?_, fun first second column other => ?_⟩
  · have whole := dialect.readQuoted_quote name [] nofun
    rwa [List.append_nil] at whole
  · rw [readColumn_qualify, effective_eq, Option.getD_some]
  · rw [qualify_eq_iff, effective_eq_iff]

-- a name that holds quote characters around a dot does not pass for an alias and a name
example :
    let name := "a\x22.\x22b"
    postgresql.readColumn (postgresql.qualify none name) = some (none, name)
      ∧ postgresql.readColumn "\x22a\x22.\x22b\x22" = some (some "a", "b") := by
  decide +kernel

end Dialect

namespace Filter

/-- No field has the column of another one, whether columns are truncated to dates or not. -/
theorem column_injective {Q : Type} (filter : Filter Q) (schema : Option Schema)
    {first second : String} (same : filter.column schema first = filter.column schema second) :
    first = second := by
  let qualified (field : String) := filter.settings.dialect.qualify filter.qualifier field
  have names (same : qualified first = qualified second) : first = second :=
    ((Dialect.qualify_eq_iff _).1 same).1
  -- a date begins with a letter, and a column in quotes does not
  have apart (field other : String) : truncateToDate (qualified field) ≠ qualified other := by
    intro same
    have heads := congrArg (fun text => text.toList.head?) same
    rw [Dialect.head?_qualify] at heads
    revert heads
    cases filter.settings.dialect <;> simp [truncateToDate, Dialect.quoteChar]
  simp only [column] at same
  split at same <;> split at same
  · refine names (String.toList_injective ?_)
    have texts := congrArg String.toList same
    simpa [truncateToDate] using texts
  · exact absurd same (apart _ _)
  · exact absurd same.symm (apart _ _)
  · exact names same

end Filter

end Listing
