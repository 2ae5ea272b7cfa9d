import Listing.Proofs.PageArithmetic
import Listing.Settings.Toml

/-!
# Settings that are loaded

Settings are read from variables or from a document, and are checked before anything uses them. Each
of them comes from a source of its own, so what is wrong with one variable is not seen in another
setting; only the check looks at two of them at once. What the check guarantees is what the numbers
of a page rest on. Main statements: `ofVariables_eq_ok_iff` says which variables give which
settings, `Loaded.usable` that all settings that are loaded are usable, `Usable.normalSize_zero`
what this means for the size of a page, and `loaded_complete_and_usable` puts these together.
-/
namespace Listing

namespace Settings

/-! ## Errors -/

/-- Whether a step can fail only because of the configuration. -/
def ConfigurationStep {α : Type} (step : Except Cause α) : Prop :=
  ∀ cause, step = .error cause → cause.toError.code = .invalidConfiguration

section Steps

variable {α β : Type}

/-- A step that succeeds does not fail. -/
theorem configurationStep_ok (value : α) : ConfigurationStep (.ok value) := by
  intro cause failed
  cases failed

/-- A step that fails because of the configuration. -/
theorem configurationStep_error {cause : Cause}
    (configuration : cause.toError.code = .invalidConfiguration) :
    ConfigurationStep (.error cause : Except Cause α) := by
  intro other failed
  cases failed
  exact configuration

/-- Steps in sequence fail as the first of them that fails. -/
theorem ConfigurationStep.bind {step : Except Cause α} {next : α → Except Cause β}
    (first : ConfigurationStep step) (later : ∀ value, ConfigurationStep (next value)) :
    ConfigurationStep (step >>= next) := by
  cases step with
  | error cause => exact configurationStep_error (first cause rfl)
  | ok value => exact later value

/-- Steps in sequence succeed when each of them does, on what the one before it gives. -/
theorem bind_eq_ok_iff {step : Except Cause α} {next : α → Except Cause β} {result : β} :
    step >>= next = .ok result ↔ ∃ value, step = .ok value ∧ next value = .ok result := by
  cases step with
  | error cause =>
    constructor
    · intro failed
      cases failed
    · rintro ⟨value, failed, -⟩
      cases failed
  | ok value =>
    constructor
    · intro succeeded
      exact ⟨value, rfl, succeeded⟩
    · rintro ⟨_, same, succeeded⟩
      cases same
      exact succeeded

end Steps

/-! ## The check -/

/-- Settings whose usual size of pages is positive and at most the greatest. -/
structure Usable (settings : Settings) : Prop where
  /-- The usual size is positive. -/
  positive : 1 ≤ settings.pageSize.toNat
  /-- The usual size is at most the greatest. -/
  bounded : settings.pageSize.toNat ≤ settings.maxPageSize.toNat

/-- Settings are usable when none of the three things that the check looks for is wrong. -/
theorem usable_iff {settings : Settings} :
    settings.Usable ↔ settings.maxPageSize ≠ 0 ∧ settings.pageSize ≠ 0
      ∧ ¬ settings.maxPageSize < settings.pageSize := by
  have greatest : settings.maxPageSize = 0 ↔ settings.maxPageSize.toNat = 0 :=
    UInt64.toNat_inj.symm
  have usual : settings.pageSize = 0 ↔ settings.pageSize.toNat = 0 := UInt64.toNat_inj.symm
  rw [ne_eq, ne_eq, greatest, usual, UInt64.lt_iff_toNat_lt]
  constructor
  · rintro ⟨positive, bounded⟩
    omega
  · rintro ⟨-, positive, bounded⟩
    constructor <;> omega

/-- Exactly usable settings pass the check. -/
theorem validate_eq_ok_iff {settings : Settings} :
    settings.validate = .ok () ↔ settings.Usable := by
  rw [usable_iff]
  unfold validate
  split_ifs with noGreatest noUsual exceeds
  · simp [noGreatest]
  · simp [noUsual]
  · simp [exceeds]
  · simp [noGreatest, noUsual, exceeds]

/-- Settings that pass the check are kept as they are. -/
theorem validated_eq_ok_iff {settings checked : Settings} :
    settings.validated = .ok checked ↔ settings = checked ∧ settings.Usable := by
  unfold validated
  rw [bind_eq_ok_iff]
  constructor
  · rintro ⟨_, passed, same⟩
    exact ⟨Except.ok.inj same, validate_eq_ok_iff.1 passed⟩
  · rintro ⟨rfl, usable⟩
    exact ⟨(), validate_eq_ok_iff.2 usable, rfl⟩

/-- The check fails only because of the configuration. -/
theorem configurationStep_validated (settings : Settings) :
    ConfigurationStep settings.validated := by
  unfold validated validate
  refine .bind ?_ fun _ => configurationStep_ok settings
  split
  · exact configurationStep_error rfl
  · split
    · exact configurationStep_error rfl
    · split
      · exact configurationStep_error rfl
      · exact configurationStep_ok ()

/-! ## Variables -/

/-- What a variable gives: what its text is read as, or a default when it is not set. -/
def given {α : Type} (read : String → Option α) (default : α) : Option String → Option α
  | none => some default
  | some text => read text

/-- The size that a text gives: a numeral with white space around it. -/
def readSize (text : String) : Option UInt64 :=
  (Text.readUInt64 (Text.trim text.toList)).toOption

/-- The names by which dialects are known. -/
def dialectNames : Entries Dialect := [
  ("mariadb", .mysql), ("mysql", .mysql), ("postgres", .postgresql), ("postgresql", .postgresql),
  ("sqlite", .sqlite)]

/-- The dialect that a text gives: a known name in any letter case. -/
def readDialect (text : String) : Option Dialect := dialectNames.find? (Text.lowercase text)

/-- A text gives a size when it is a numeral, white space around it apart. -/
theorem readSize_eq_some_iff {text : String} {size : UInt64} :
    readSize text = some size ↔ Text.readUInt64 (Text.trim text.toList) = .ok size := by
  unfold readSize
  cases Text.readUInt64 (Text.trim text.toList) <;> simp [Except.toOption]

/-- A text is given as it is. -/
theorem given_some (default : String) (value : Option String) :
    given some default value = some (value.getD default) := by
  cases value <;> rfl

/-- A variable gives something when its text, if it is set, can be read. -/
theorem exists_given_iff {α : Type} {read : String → Option α} {default : α}
    {value : Option String} :
    (∃ held, given read default value = some held)
      ↔ ∀ text ∈ value, ∃ held, read text = some held := by
  cases value with
  | none => simp [given]
  | some text => simp [given]

section Variables

variable {valueOf : Variables}

/-- A size is read when the variable gives one. -/
theorem sizeFrom_eq_ok_iff {name : String} {default size : UInt64} :
    sizeFrom valueOf name default = .ok size
      ↔ given readSize default (valueOf name) = some size := by
  unfold sizeFrom given
  cases valueOf name with
  | none => simp
  | some text =>
    dsimp only
    rw [readSize_eq_some_iff]
    cases Text.readUInt64 (Text.trim text.toList) <;> simp

/-- Reading a size fails only because of the configuration. -/
theorem configurationStep_sizeFrom (name : String) (default : UInt64) :
    ConfigurationStep (sizeFrom valueOf name default) := by
  unfold sizeFrom
  split
  · exact configurationStep_ok default
  · split
    · exact configurationStep_ok _
    · exact configurationStep_error rfl

/-- Under each name a dialect is found, and under no other text. -/
theorem parse_eq (text : String) :
    Dialect.parse text = (readDialect text).elim
      (.error (.unknownDialect (Text.lowercase text))) .ok := by
  unfold Dialect.parse readDialect
  generalize Text.lowercase text = known
  have members : known ∈ dialectNames.keys ↔ known = "mariadb" ∨ known = "mysql"
      ∨ known = "postgres" ∨ known = "postgresql" ∨ known = "sqlite" := by
    simp [dialectNames, Keyed.keys]
  by_cases named : known ∈ dialectNames.keys
  · obtain rfl | rfl | rfl | rfl | rfl := members.1 named <;> rfl
  · have unknown : dialectNames.find? known = none := by
      rwa [Keyed.mem_keys_iff, Option.not_isSome_iff_eq_none] at named
    rw [members, not_or, not_or, not_or, not_or] at named
    obtain ⟨mariadb, mysql, postgres, postgresql, sqlite⟩ := named
    rw [unknown]
    simp [mariadb, mysql, postgres, postgresql, sqlite]

/-- A dialect is read when the variable gives one. -/
theorem dialectFrom_eq_ok_iff {name : String} {default dialect : Dialect} :
    dialectFrom valueOf name default = .ok dialect
      ↔ given readDialect default (valueOf name) = some dialect := by
  unfold dialectFrom given
  cases valueOf name with
  | none => simp
  | some text =>
    dsimp only
    rw [parse_eq]
    cases readDialect text <;> simp

/-- Reading a dialect fails only because of the configuration. -/
theorem configurationStep_dialectFrom (name : String) (default : Dialect) :
    ConfigurationStep (dialectFrom valueOf name default) := by
  unfold dialectFrom
  split
  · exact configurationStep_ok default
  · rename_i text set
    rw [parse_eq]
    cases readDialect text with
    | none => exact configurationStep_error rfl
    | some dialect => exact configurationStep_ok dialect

end Variables

/-- Settings each of which is what its own variable gives, and its default when the variable is not
set. -/
structure ReadFrom (valueOf : Variables) (settings : Settings) : Prop where
  /-- The greatest size of a page. -/
  maxPageSize : given readSize ({} : Settings).maxPageSize (valueOf "SIEVE_MAX_PAGE_SIZE")
    = some settings.maxPageSize
  /-- The usual size of a page. -/
  pageSize : given readSize ({} : Settings).pageSize (valueOf "SIEVE_PAGE_SIZE")
    = some settings.pageSize
  /-- The parameter that holds the number of the page. -/
  pageParam : given some ({} : Settings).pageParam (valueOf "SIEVE_PAGE_PARAM")
    = some settings.pageParam
  /-- The parameter that holds the size of the page. -/
  pageSizeParam : given some ({} : Settings).pageSizeParam (valueOf "SIEVE_PAGE_SIZE_PARAM")
    = some settings.pageSizeParam
  /-- The parameter that holds the list of orderings. -/
  sortParam : given some ({} : Settings).sortParam (valueOf "SIEVE_SORT_PARAM")
    = some settings.sortParam
  /-- The dialect of the database. -/
  dialect : given readDialect ({} : Settings).dialect (valueOf "SIEVE_DIALECT")
    = some settings.dialect

namespace ReadFrom

variable {valueOf : Variables}

/-- No two settings are read from the same variables. -/
theorem unique {first second : Settings} (one : first.ReadFrom valueOf)
    (other : second.ReadFrom valueOf) : first = second := by
  have same {α : Type} {value : Option α} {left right : α} (held : value = some left)
      (found : value = some right) : left = right := Option.some.inj (held.symm.trans found)
  cases first
  cases second
  rw [mk.injEq]
  exact ⟨same one.maxPageSize other.maxPageSize, same one.pageSize other.pageSize,
    same one.pageParam other.pageParam, same one.pageSizeParam other.pageSizeParam,
    same one.sortParam other.sortParam, same one.dialect other.dialect⟩

/-- Settings are read from variables when the sizes and the dialect can be read. -/
theorem exists_iff :
    (∃ settings : Settings, settings.ReadFrom valueOf)
      ↔ (∀ name ∈ ["SIEVE_MAX_PAGE_SIZE", "SIEVE_PAGE_SIZE"], ∀ text ∈ valueOf name,
          ∃ size, Text.readUInt64 (Text.trim text.toList) = .ok size)
        ∧ ∀ text ∈ valueOf "SIEVE_DIALECT", Text.lowercase text ∈ dialectNames.keys := by
  have sizes (name : String) (default : UInt64) :
      (∃ size, given readSize default (valueOf name) = some size)
        ↔ ∀ text ∈ valueOf name, ∃ size, Text.readUInt64 (Text.trim text.toList) = .ok size := by
    simp only [exists_given_iff, readSize_eq_some_iff]
  have dialects (default : Dialect) :
      (∃ dialect, given readDialect default (valueOf "SIEVE_DIALECT") = some dialect)
        ↔ ∀ text ∈ valueOf "SIEVE_DIALECT", Text.lowercase text ∈ dialectNames.keys := by
    simp only [exists_given_iff, readDialect, Keyed.mem_keys_iff, Option.isSome_iff_exists]
  rw [List.forall_mem_cons, List.forall_mem_singleton,
    ← sizes _ ({} : Settings).maxPageSize, ← sizes _ ({} : Settings).pageSize,
    ← dialects ({} : Settings).dialect]
  constructor
  · rintro ⟨settings, read⟩
    exact ⟨⟨⟨_, read.maxPageSize⟩, ⟨_, read.pageSize⟩⟩, ⟨_, read.dialect⟩⟩
  · rintro ⟨⟨⟨_, maxPageSize⟩, ⟨_, pageSize⟩⟩, ⟨_, dialect⟩⟩
    exact ⟨.mk _ _ _ _ _ _, maxPageSize, pageSize, given_some _ _, given_some _ _,
      given_some _ _, dialect⟩

end ReadFrom

/-- Variables give the settings that are read from them, if these are usable. -/
theorem ofVariables_eq_ok_iff {valueOf : Variables} {settings : Settings} :
    ofVariables valueOf = .ok settings ↔ settings.ReadFrom valueOf ∧ settings.Usable := by
  unfold ofVariables
  simp only [bind_eq_ok_iff, sizeFrom_eq_ok_iff, dialectFrom_eq_ok_iff, validated_eq_ok_iff]
  constructor
  · rintro ⟨maxPageSize, greatest, pageSize, usual, dialect, database, rfl, usable⟩
    exact ⟨⟨greatest, usual, given_some _ _, given_some _ _, given_some _ _, database⟩, usable⟩
  · rintro ⟨read, usable⟩
    have same (default : String) {value : Option String} {name : String}
        (held : given some default value = some name) : value.getD default = name :=
      Option.some.inj ((given_some default value).symm.trans held)
    refine ⟨_, read.maxPageSize, _, read.pageSize, _, read.dialect, ?_⟩
    rw [same _ read.pageParam, same _ read.pageSizeParam, same _ read.sortParam]
    exact ⟨rfl, usable⟩

/-- Reading variables fails only because of the configuration. -/
theorem configurationStep_ofVariables (valueOf : Variables) :
    ConfigurationStep (ofVariables valueOf) :=
  .bind (configurationStep_sizeFrom _ _) fun _ =>
    .bind (configurationStep_sizeFrom _ _) fun _ =>
      .bind (configurationStep_dialectFrom _ _) fun _ => configurationStep_validated _

/-! ## Documents -/

/-- A document gives usable settings, if any. -/
theorem usable_of_ofToml {document : Toml.Table} {settings : Settings}
    (read : ofToml document = .ok settings) : settings.Usable := by
  unfold ofToml at read
  split at read
  · cases read
  · obtain ⟨rfl, usable⟩ := validated_eq_ok_iff.1 read
    exact usable

/-- Reading a document fails only because of the configuration. -/
theorem configurationStep_ofToml (document : Toml.Table) :
    ConfigurationStep (ofToml document) := by
  unfold ofToml
  split
  · exact configurationStep_error rfl
  · exact configurationStep_validated _

/-- Settings that are loaded from somewhere. -/
inductive Loaded : Settings → Prop
  /-- From variables. -/
  | ofVariables {valueOf : Variables} {settings : Settings}
      (read : Settings.ofVariables valueOf = .ok settings) : Loaded settings
  /-- From a document. -/
  | ofToml {document : Toml.Table} {settings : Settings}
      (read : Settings.ofToml document = .ok settings) : Loaded settings

/-- Settings that are loaded are usable. -/
theorem Loaded.usable {settings : Settings} (loaded : settings.Loaded) : settings.Usable := by
  cases loaded with
  | ofVariables read => exact (ofVariables_eq_ok_iff.1 read).2
  | ofToml read => exact usable_of_ofToml read

/-! ## Sizes of pages -/

namespace Usable

variable {settings : Settings} (usable : settings.Usable)

include usable

/-- The size of a page lies between one and the greatest size, whatever is asked for. -/
theorem normalSize_bounds (asked : Int64) :
    1 ≤ (Cursor.normalSize settings asked).toNat
      ∧ (Cursor.normalSize settings asked).toNat ≤ settings.maxPageSize.toNat := by
  have positive := usable.positive
  have bounded := usable.bounded
  rw [Cursor.toNat_normalSize]
  omega

/-- The usual size is kept, since it lies between one and the greatest size already. -/
theorem normalSize_zero : Cursor.normalSize settings 0 = settings.pageSize := by
  have positive := usable.positive
  have bounded := usable.bounded
  have zero : (0 : Int64) ≤ 0 := Int64.le_refl 0
  rw [← UInt64.toNat_inj, Cursor.toNat_normalSize, if_pos zero]
  omega

end Usable

/-- Variables give settings exactly when those that are set can be read and the sizes are usable,
each setting from its own variable, and all that are loaded keep pages within their bounds. -/
theorem loaded_complete_and_usable :
    (∀ valueOf : Variables,
        (∃ settings, ofVariables valueOf = .ok settings)
          ↔ (∀ name ∈ ["SIEVE_MAX_PAGE_SIZE", "SIEVE_PAGE_SIZE"], ∀ text ∈ valueOf name,
              ∃ size, Text.readUInt64 (Text.trim text.toList) = .ok size)
            ∧ (∀ text ∈ valueOf "SIEVE_DIALECT", Text.lowercase text ∈ dialectNames.keys)
            ∧ ∀ settings : Settings, settings.ReadFrom valueOf →
              1 ≤ settings.pageSize.toNat
                ∧ settings.pageSize.toNat ≤ settings.maxPageSize.toNat)
      ∧ (∀ (valueOf : Variables) (settings : Settings),
          ofVariables valueOf = .ok settings ↔ settings.ReadFrom valueOf ∧ settings.Usable)
      ∧ (∀ (valueOf : Variables) (cause : Cause), ofVariables valueOf = .error cause →
          cause.toError.code = .invalidConfiguration)
      ∧ (∀ (document : Toml.Table) (cause : Cause), ofToml document = .error cause →
          cause.toError.code = .invalidConfiguration)
      ∧ ∀ page : Page, page.settings.Loaded →
          1 ≤ page.cursor.pageSize.toNat
            ∧ page.cursor.pageSize.toNat ≤ page.settings.maxPageSize.toNat
            ∧ ((∀ value ∈ page.params.find? page.settings.pageSizeParam, ∀ number,
                  Text.readInt64 (Text.trim value.toList) = .ok number → number ≤ 0) →
                page.cursor.pageSize = page.settings.pageSize) := by
  refine ⟨?given, fun _ _ => ofVariables_eq_ok_iff, configurationStep_ofVariables,
    configurationStep_ofToml, ?page⟩
  case given =>
    intro valueOf
    constructor
    · rintro ⟨settings, succeeded⟩
      obtain ⟨read, usable⟩ := ofVariables_eq_ok_iff.1 succeeded
      obtain ⟨sizes, dialect⟩ := ReadFrom.exists_iff.1 ⟨settings, read⟩
      refine ⟨sizes, dialect, fun others same => ?_⟩
      obtain rfl := same.unique read
      exact ⟨usable.positive, usable.bounded⟩
    · rintro ⟨sizes, dialect, inside⟩
      obtain ⟨settings, read⟩ := ReadFrom.exists_iff.2 ⟨sizes, dialect⟩
      obtain ⟨positive, bounded⟩ := inside settings read
      exact ⟨settings, ofVariables_eq_ok_iff.2 ⟨read, positive, bounded⟩⟩
  case page =>
    intro page loaded
    have size : page.cursor.pageSize = page.size := congrArg Cursor.pageSize page.cursor_eq
    obtain ⟨least, greatest⟩ := loaded.usable.normalSize_bounds page.askedSize
    rw [size]
    refine ⟨least, greatest, fun negative => ?_⟩
    rw [Page.size_of_not_positive negative, loaded.usable.normalSize_zero]

/-- A usual size above the greatest size that is not set is refused. -/
example :
    ofVariables (fun name => if name = "SIEVE_PAGE_SIZE" then some " 500 " else none)
      = .error (.pageSizeExceedsMax 500 200) := by rfl

end Settings

end Listing
