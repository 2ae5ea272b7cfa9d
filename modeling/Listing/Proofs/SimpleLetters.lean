import Listing.Text.Words
import Mathlib.Tactic.MkIffOfInductiveProp

/-!
# Simple letters

Most letters and all printable characters of ASCII are clusters of their own and have one capital
and one small form, which is all that matters for where the words of a name end and how they are
spelled. Main statements: `clusters_of_plain`, `simple_of_ascii`, and `Simple.clusters_capital` and
`Simple.clusters_small` for the cases of both forms.
-/
namespace Listing.Text

/-! ## Clusters of plain characters -/

/-- No linker of conjuncts is a plain character. -/
theorem not_linker_of_plain {c : Char} (plain : clusterClass c = .plain) :
    within conjunctLinkerRanges c = false := by
  have linkers : ∀ range ∈ conjunctLinkerRanges,
      range.1 = range.2 ∧ clusterClass (Char.ofNat range.1) = .extend := by decide +kernel
  rw [Bool.eq_false_iff, Ne, within_iff]
  rintro ⟨range, member, above, below⟩
  obtain ⟨single, joins⟩ := linkers range member
  have code : c.toNat = range.1 := by omega
  rw [← code, Char.ofNat_toNat, plain] at joins
  cases joins

/-- A state in which no plain character joins what stands before it. -/
structure ClusterState.Apart (state : ClusterState) : Prop where
  /-- The last character stands alone or is plain. -/
  last : state.last = .control ∨ state.last = .plain
  /-- No emoji sequence asks for another pictograph. -/
  emoji : state.emoji ≠ .joined
  /-- No conjunct asks for another consonant. -/
  conjunct : state.conjunct ≠ .linked

/-- After nothing a plain character joins nothing. -/
theorem ClusterState.apart_start : ClusterState.start.Apart := ⟨.inl rfl, nofun, nofun⟩

/-- A plain character does not join what stands before it. -/
theorem ClusterState.Apart.not_joins {state : ClusterState} {c : Char} (apart : state.Apart)
    (plain : clusterClass c = .plain) : state.joins c = false := by
  obtain ⟨last | last, emoji, conjunct⟩ := apart
  · simp [joins, last, plain]
  · simp [joins, last, plain, syllableGoesOn, emoji, conjunct]

/-- Nor does a plain character after it join it. -/
theorem ClusterState.apart_advance (state : ClusterState) {c : Char}
    (plain : clusterClass c = .plain) : (state.advance c).Apart where
  last := .inr plain
  emoji := by
    simp only [ClusterState.advance, plain]
    split
    · nofun
    split
    · nofun
    simp
  conjunct := by
    simp only [ClusterState.advance, plain, not_linker_of_plain plain]
    split
    · nofun
    split
    · nofun
    simp

/-- Characters as clusters of their own. -/
def singles (cs : List Char) : List (List Char) := cs.map fun c => [c]

/-- The clusters of plain characters after others that they do not join. -/
theorem clustersAfter_of_plain {state : ClusterState} (apart : state.Apart) {cs : List Char}
    (plain : ∀ c ∈ cs, clusterClass c = .plain) : clustersAfter state cs = ([], singles cs) := by
  induction cs generalizing state with
  | nil => rfl
  | cons c rest ih =>
    have own := plain c List.mem_cons_self
    have later := ih (state.apart_advance own) (List.forall_mem_cons.1 plain).2
    simp only [clustersAfter, later, apart.not_joins own]
    rfl

/-- Plain characters are clusters of their own. -/
theorem clusters_of_plain {cs : List Char} (plain : ∀ c ∈ cs, clusterClass c = .plain) :
    clusters cs = singles cs := by
  rw [clusters, clustersAfter_of_plain ClusterState.apart_start plain]

/-! ## Simple letters -/

/-- The first character of the upper case of a character. -/
def capitalOf (c : Char) : Char := (upperOf c).headD c

/-- The first character of the lower case of a character. -/
def smallOf (c : Char) : Char := (lowerOf c).headD c

/-- A character that is one of two, its capital and its small form, which may be the same; both are
plain, and neither changes with the characters around it. -/
@[mk_iff]
structure Simple (c : Char) : Prop where
  /-- The capital form is its own upper case. -/
  upper_capital : upperOf (capitalOf c) = [capitalOf c]
  /-- The capital form is the upper case of the small form. -/
  upper_small : upperOf (smallOf c) = [capitalOf c]
  /-- The small form is the lower case of the capital form. -/
  lower_capital : lowerOf (capitalOf c) = [smallOf c]
  /-- The small form is its own lower case. -/
  lower_small : lowerOf (smallOf c) = [smallOf c]
  /-- The capital form is plain. -/
  plain_capital : clusterClass (capitalOf c) = .plain
  /-- The small form is plain. -/
  plain_small : clusterClass (smallOf c) = .plain
  /-- The capital form is not the letter whose lower case depends on the letters around it. -/
  capital_ne : capitalOf c ≠ 'Σ'
  /-- The character is one of its forms. -/
  form : c = capitalOf c ∨ c = smallOf c

/-- Whether a character is simple can be looked up. -/
instance (c : Char) : Decidable (Simple c) := decidable_of_iff' _ (simple_iff c)

/-- A character whose two forms differ. -/
def HasCase (c : Char) : Prop := capitalOf c ≠ smallOf c

instance (c : Char) : Decidable (HasCase c) := inferInstanceAs (Decidable (_ ≠ _))

/-- What holds of the characters of consecutive code points holds of each character among them. -/
theorem of_codes (kind : Char → Prop) {first beyond : Nat}
    (codes : ∀ code < beyond, first ≤ code → kind (Char.ofNat code)) {c : Char}
    (above : first ≤ c.toNat) (below : c.toNat < beyond) : kind c := by
  have own := codes c.toNat below above
  rwa [Char.ofNat_toNat] at own

/-- The printable characters of ASCII are simple. -/
theorem simple_of_ascii {c : Char} (above : 0x20 ≤ c.toNat) (below : c.toNat < 0x7F) : Simple c :=
  of_codes Simple (by decide +kernel) above below

-- letters of other alphabets are simple too, as far as they are written in one character
example : Simple 'é' ∧ Simple 'Ж' ∧ Simple '語' ∧ ¬Simple 'ß' ∧ ¬Simple 'σ' := by decide +kernel

namespace Simple

variable {c : Char} (simple : Simple c)

include simple

/-- The upper case of a simple character is its capital form. -/
theorem upperOf_eq : upperOf c = [capitalOf c] := by
  obtain capital | small := simple.form
  · exact (congrArg upperOf capital).trans simple.upper_capital
  · exact (congrArg upperOf small).trans simple.upper_small

/-- The lower case of a simple character is its small form. -/
theorem lowerOf_eq : lowerOf c = [smallOf c] := by
  obtain capital | small := simple.form
  · exact (congrArg lowerOf capital).trans simple.lower_capital
  · exact (congrArg lowerOf small).trans simple.lower_small

/-- A simple character is plain. -/
theorem plain : clusterClass c = .plain := by
  obtain capital | small := simple.form
  · exact (congrArg clusterClass capital).trans simple.plain_capital
  · exact (congrArg clusterClass small).trans simple.plain_small

/-- The lower case of a simple character is the same in every text. -/
theorem ne_sigma : c ≠ 'Σ' := by
  rintro rfl
  exact simple.capital_ne (by decide +kernel)

/-- The capital form of the capital form. -/
theorem capitalOf_capitalOf : capitalOf (capitalOf c) = capitalOf c := by
  rw [capitalOf, simple.upper_capital, List.headD_cons]

/-- The capital form of the small form. -/
theorem capitalOf_smallOf : capitalOf (smallOf c) = capitalOf c := by
  rw [capitalOf, simple.upper_small, List.headD_cons]

/-- The small form of the capital form. -/
theorem smallOf_capitalOf : smallOf (capitalOf c) = smallOf c := by
  rw [smallOf, simple.lower_capital, List.headD_cons]

/-- The small form of the small form. -/
theorem smallOf_smallOf : smallOf (smallOf c) = smallOf c := by
  rw [smallOf, simple.lower_small, List.headD_cons]

/-- The capital form of a simple character is simple. -/
theorem capital : Simple (capitalOf c) where
  upper_capital := by rw [simple.capitalOf_capitalOf, simple.upper_capital]
  upper_small := by rw [simple.smallOf_capitalOf, simple.upper_small, simple.capitalOf_capitalOf]
  lower_capital := by
    rw [simple.capitalOf_capitalOf, simple.lower_capital, simple.smallOf_capitalOf]
  lower_small := by rw [simple.smallOf_capitalOf, simple.lower_small]
  plain_capital := by rw [simple.capitalOf_capitalOf, simple.plain_capital]
  plain_small := by rw [simple.smallOf_capitalOf, simple.plain_small]
  capital_ne := by rw [simple.capitalOf_capitalOf]; exact simple.capital_ne
  form := .inl simple.capitalOf_capitalOf.symm

/-- The small form of a simple character is simple. -/
theorem small : Simple (smallOf c) where
  upper_capital := by rw [simple.capitalOf_smallOf, simple.upper_capital]
  upper_small := by rw [simple.smallOf_smallOf, simple.upper_small, simple.capitalOf_smallOf]
  lower_capital := by rw [simple.capitalOf_smallOf, simple.lower_capital, simple.smallOf_smallOf]
  lower_small := by rw [simple.smallOf_smallOf, simple.lower_small]
  plain_capital := by rw [simple.capitalOf_smallOf, simple.plain_capital]
  plain_small := by rw [simple.smallOf_smallOf, simple.plain_small]
  capital_ne := by rw [simple.capitalOf_smallOf]; exact simple.capital_ne
  form := .inr simple.smallOf_smallOf.symm

/-- A form of a simple character that has no case is the character itself. -/
theorem form_eq_iff {other : Char} (capital : capitalOf other = other)
    (small : smallOf other = other) :
    (capitalOf c = other ↔ c = other) ∧ (smallOf c = other ↔ c = other) := by
  have both (big : capitalOf c = other) (little : smallOf c = other) : c = other :=
    simple.form.elim (fun form => form.trans big) fun form => form.trans little
  refine ⟨⟨fun big => both big ?_, ?_⟩, fun little => both ?_ little, ?_⟩
  · rw [← simple.smallOf_capitalOf, big, small]
  · rintro rfl
    exact capital
  · rw [← simple.capitalOf_smallOf, little, capital]
  · rintro rfl
    exact small

end Simple

/-! ## Kinds of characters -/

/-- A digit has no case. -/
theorem forms_of_isDigit {c : Char} (digit : c.isDigit) : capitalOf c = c ∧ smallOf c = c := by
  have bounds : 48 ≤ c.toNat ∧ c.toNat ≤ 57 := by
    simpa [Char.isDigit, UInt32.le_iff_toNat_le] using digit
  have codes : ∀ code < 58, 48 ≤ code → capitalOf (Char.ofNat code) = Char.ofNat code
      ∧ smallOf (Char.ofNat code) = Char.ofNat code := by
    decide +kernel
  exact of_codes (fun c => capitalOf c = c ∧ smallOf c = c) codes bounds.1 (by omega)

/-- A separator has no case. -/
theorem forms_of_isWordSeparator {c : Char} (separates : isWordSeparator [c]) :
    capitalOf c = c ∧ smallOf c = c := by
  simp only [isWordSeparator, Bool.or_eq_true, beq_iff_eq, List.cons.injEq, and_true] at separates
  obtain (rfl | rfl) | rfl := separates <;> decide +kernel

/-- A digit has no case. -/
theorem not_hasCase_of_isDigit {c : Char} (digit : c.isDigit) : ¬HasCase c := by
  obtain ⟨capital, small⟩ := forms_of_isDigit digit
  rw [HasCase, capital, small]
  exact fun differ => differ rfl

namespace Simple

variable {c : Char} (simple : Simple c)

include simple

/-- A property of characters without case is one of the forms of a character exactly when it is one
of the character. -/
theorem forms_iff (kind : Char → Bool)
    (caseless : ∀ other, kind other → capitalOf other = other ∧ smallOf other = other) :
    kind (capitalOf c) = kind c ∧ kind (smallOf c) = kind c := by
  constructor
  · rw [Bool.eq_iff_iff]
    constructor
    · intro holds
      obtain ⟨capital, small⟩ := caseless _ holds
      rwa [← (simple.form_eq_iff capital small).1.1 rfl] at holds
    · intro holds
      rwa [(caseless c holds).1]
  · rw [Bool.eq_iff_iff]
    constructor
    · intro holds
      obtain ⟨capital, small⟩ := caseless _ holds
      rwa [← (simple.form_eq_iff capital small).2.1 rfl] at holds
    · intro holds
      rwa [(caseless c holds).2]

/-- A form is a digit when the character is. -/
theorem isDigit_forms :
    (capitalOf c).isDigit = c.isDigit ∧ (smallOf c).isDigit = c.isDigit :=
  simple.forms_iff _ fun _ => forms_of_isDigit

/-- A form separates words when the character does. -/
theorem isWordSeparator_forms :
    isWordSeparator [capitalOf c] = isWordSeparator [c]
      ∧ isWordSeparator [smallOf c] = isWordSeparator [c] :=
  simple.forms_iff (fun c => isWordSeparator [c]) fun _ => forms_of_isWordSeparator

/-- The upper and the lower case of a simple character as a cluster. -/
theorem upper_lower : upper [c] = [capitalOf c] ∧ lower [c] = [smallOf c] := by
  constructor
  · simp [upper, simple.upperOf_eq]
  · simp [lower, lowerAfter, simple.ne_sigma, simple.lowerOf_eq]

/-- The capital form is in upper case when the character has case, and never in lower case. -/
theorem clusters_capital :
    isUpperCluster [capitalOf c] = decide (HasCase c) ∧ isLowerCluster [capitalOf c] = false := by
  obtain ⟨upper, lower⟩ := simple.capital.upper_lower
  rw [isUpperCluster, isLowerCluster, upper, lower, simple.capitalOf_capitalOf,
    simple.smallOf_capitalOf]
  by_cases cased : HasCase c
  · have differ : capitalOf c ≠ smallOf c := cased
    simp [cased, differ]
  · have same : capitalOf c = smallOf c := Decidable.not_not.1 cased
    simp [cased, same]

/-- The small form is in lower case when the character has case, and never in upper case. -/
theorem clusters_small :
    isUpperCluster [smallOf c] = false ∧ isLowerCluster [smallOf c] = decide (HasCase c) := by
  obtain ⟨upper, lower⟩ := simple.small.upper_lower
  rw [isUpperCluster, isLowerCluster, upper, lower, simple.capitalOf_smallOf,
    simple.smallOf_smallOf]
  by_cases cased : HasCase c
  · have differ : smallOf c ≠ capitalOf c := Ne.symm cased
    simp [cased, differ, bne_iff_ne, differ.symm]
  · have same : capitalOf c = smallOf c := Decidable.not_not.1 cased
    simp [cased, same]

/-- A simple character is in upper or in lower case when it has case. -/
theorem isUpper_or_isLower :
    (isUpperCluster [c] || isLowerCluster [c]) = decide (HasCase c) := by
  obtain capital | small := simple.form
  · have forms := simple.clusters_capital
    rw [← capital] at forms
    rw [forms.1, forms.2, Bool.or_false]
  · have forms := simple.clusters_small
    rw [← small] at forms
    rw [forms.1, forms.2, Bool.false_or]

end Simple

end Listing.Text
