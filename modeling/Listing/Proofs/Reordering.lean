import Listing.Proofs.AllowList
import Listing.Proofs.Numerals
import Mathlib.Data.List.Induction

/-!
# Pieces of a query in any order

A query is pieces with ampersands between them, each of which spells a name and a value. Of several
pieces that spell one name the last counts, so pieces that spell different names may change places.
Main statements: `parseForm_intercalate` says what the pieces of a query are read as, `find?_ofQuery_intercalate`
what is found under a name, and `ofQuery_reordered` that a query whose pieces change places leaves
the same parameters, and with them the same conditions, orderings and page.
-/
namespace Listing

/-! ## Bytes of texts -/

namespace Text

/-- A byte below 128 stands in an encoding only for the character of its own number. -/
theorem toNat_eq_of_mem_utf8EncodeChar {c : Char} {byte : UInt8}
    (member : byte ∈ String.utf8EncodeChar c) (ascii : byte.toNat < 0x80) :
    c.toNat = byte.toNat := by
  have value {number : Nat} (bound : number < 0x100) : (UInt8.ofNat number).toNat = number :=
    UInt8.toNat_ofNat_of_lt' bound
  -- the bytes of longer encodings are 128 or more
  have high {number : Nat} (least : 0x80 ≤ number) (bound : number < 0x100) :
      byte ≠ UInt8.ofNat number := by
    rintro rfl
    rw [value bound] at ascii
    omega
  rw [String.utf8EncodeChar] at member
  split at member
  · rename_i short
    have bound : c.val.toNat < 0x100 := by omega
    obtain rfl := List.mem_singleton.1 member
    exact (value bound).symm
  · exfalso
    split at member
    · simp only [List.mem_cons, List.not_mem_nil, or_false] at member
      obtain same | same := member <;> exact high (by omega) (by omega) same
    · split at member
      · simp only [List.mem_cons, List.not_mem_nil, or_false] at member
        obtain same | same | same := member <;> exact high (by omega) (by omega) same
      · simp only [List.mem_cons, List.not_mem_nil, or_false] at member
        obtain same | same | same | same := member <;> exact high (by omega) (by omega) same

/-- The bytes of a text without an ampersand hold none. -/
theorem ampersand_not_mem_utf8 {text : String} (absent : '&' ∉ text.toList) :
    Url.byteOf '&' ∉ utf8 text := by
  intro member
  obtain ⟨c, inside, encoded⟩ := List.mem_flatMap.1 member
  have number : c.toNat = '&'.toNat := toNat_eq_of_mem_utf8EncodeChar encoded (by decide)
  exact absent (Char.toNat_inj.1 number ▸ inside)

/-- The bytes of texts in sequence follow one another. -/
theorem utf8_append (first later : String) : utf8 (first ++ later) = utf8 first ++ utf8 later := by
  rw [utf8, String.toList_append, List.flatMap_append]
  rfl

/-- Only the empty text has no bytes. -/
theorem isEmpty_utf8 (text : String) : (utf8 text).isEmpty = text.isEmpty := by
  rw [Bool.eq_iff_iff, List.isEmpty_iff, String.isEmpty_iff, utf8, List.flatMap_eq_nil_iff,
    ← String.toList_eq_nil_iff, List.eq_nil_iff_forall_not_mem]
  exact forall_congr' fun c => imp_congr_right fun _ =>
    iff_of_false String.utf8EncodeChar_ne_nil id

end Text

namespace Url

/-! ## What pieces spell -/

/-- The name that a piece of a query spells. -/
def pieceName (piece : String) : String := (decodePiece (Text.utf8 piece)).1

/-- The value that a piece of a query spells. -/
def pieceValue (piece : String) : String := (decodePiece (Text.utf8 piece)).2

/-- Whether a piece counts for a name; an empty one counts for none. -/
def spells (name piece : String) : Bool := !piece.isEmpty && pieceName piece == name

/-- The pieces that count for a name are those that are not empty and spell it. -/
theorem spells_iff {name piece : String} :
    spells name piece ↔ piece ≠ "" ∧ pieceName piece = name := by
  simp [spells]

/-- Pieces without ampersands between which ampersands stand are read one by one. -/
theorem parseForm_intercalate {pieces : List String} (whole : ∀ piece ∈ pieces, '&' ∉ piece.toList) :
    parseForm (Text.utf8 ("&".intercalate pieces))
      = (pieces.filter fun piece => !piece.isEmpty).map fun piece =>
          (pieceName piece, pieceValue piece) := by
  have single (piece : String) :
      (([Text.utf8 piece] : List (List UInt8)).filter fun bytes => !bytes.isEmpty).map decodePiece
        = ([piece].filter fun piece => !piece.isEmpty).map fun piece =>
          (pieceName piece, pieceValue piece) := by
    rw [List.filter_singleton, List.filter_singleton, Text.isEmpty_utf8]
    cases piece.isEmpty <;> rfl
  induction pieces with
  | nil => rfl
  | cons piece rest ih =>
    have absent := Text.ampersand_not_mem_utf8 (whole piece List.mem_cons_self)
    cases rest with
    | nil =>
      rw [parseForm, String.intercalate_singleton, List.splitOn_eq_singleton absent, single]
    | cons next rest =>
      have later := ih fun piece member => whole piece (List.mem_cons_of_mem _ member)
      have bytes : Text.utf8 ("&".intercalate (piece :: next :: rest))
          = Text.utf8 piece ++ byteOf '&' :: Text.utf8 ("&".intercalate (next :: rest)) := by
        rw [String.intercalate_cons_cons, Text.utf8_append, Text.utf8_append, List.append_assoc]
        rfl
      rw [parseForm] at later
      rw [parseForm, bytes, List.splitOn_append_cons_self_of_not_mem absent,
        ← List.singleton_append, List.filter_append, List.map_append, single, later,
        ← List.map_append, ← List.filter_append]
      rfl

end Url

/-- What stands under a key is the value of the first entry with the key. -/
theorem lookup_eq_find? (entries : List (String × String)) (key : String) :
    entries.lookup key = (entries.find? (·.1 == key)).map (·.2) := by
  induction entries with
  | nil => rfl
  | cons entry rest ih =>
    rw [List.lookup_cons, List.find?_cons, ih, Bool.beq_comm]
    cases entry.1 == key <;> rfl

namespace Params

/-- The parameters of pieces, the first of which begins with no question mark, are what the pieces
spell. -/
theorem ofQuery_intercalate {pieces : List String}
    (whole : ∀ piece ∈ pieces, '&' ∉ piece.toList ∧ piece.toList.head? ≠ some '?') :
    ofQuery ("&".intercalate pieces)
      = ofList ((pieces.filter fun piece => !piece.isEmpty).map fun piece =>
          (Url.pieceName piece, Url.pieceValue piece)) := by
  have unasked : ("&".intercalate pieces).toList.head? ≠ some '?' := by
    cases pieces with
    | nil => simp
    | cons piece rest =>
      have own := (whole piece List.mem_cons_self).2
      cases rest with
      | nil => exact own
      | cons next rest =>
        rw [String.intercalate_cons_cons, String.toList_append, String.toList_append, List.append_assoc]
        cases spelled : piece.toList with
        | nil => simp
        | cons c more => rwa [spelled] at own
  rw [ofQuery, if_neg unasked, ← Url.parseForm_intercalate fun piece member => (whole piece member).1]
  rfl

/-- Under a name stands the value of the last of the pieces that spell the name. -/
theorem find?_ofQuery_intercalate {pieces : List String}
    (whole : ∀ piece ∈ pieces, '&' ∉ piece.toList ∧ piece.toList.head? ≠ some '?') (name : String) :
    (ofQuery ("&".intercalate pieces)).find? name
      = (pieces.filter (Url.spells name)).getLast?.map Url.pieceValue := by
  have chosen : ∀ piece, ((fun entry : String × String => entry.1 == name) ∘ fun piece =>
      (Url.pieceName piece, Url.pieceValue piece)) piece = (Url.pieceName piece == name) :=
    fun _ => rfl
  rw [ofQuery_intercalate whole, find?_ofList, lookup_eq_find?, ← List.getLast?_filter, List.filter_map,
    List.filter_filter, List.getLast?_map, Option.map_map]
  simp only [chosen, Bool.and_comm]
  rfl

end Params

/-- The last of the items that a condition selects is one after which it selects none. -/
theorem getLast?_filter_eq_some_iff {α : Type} {keep : α → Bool} {items : List α} {last : α} :
    (items.filter keep).getLast? = some last
      ↔ ∃ before after, items = before ++ last :: after ∧ keep last
        ∧ ∀ later ∈ after, ¬keep later := by
  rw [List.getLast?_filter, List.find?_eq_some_iff_append]
  constructor
  · rintro ⟨kept, after, before, split, passed⟩
    refine ⟨before.reverse, after.reverse, ?_, kept, fun later member => ?_⟩
    · rw [← List.reverse_reverse items, split]
      simp
    · simpa using passed later (List.mem_reverse.1 member)
  · rintro ⟨before, after, rfl, kept, passed⟩
    refine ⟨kept, after.reverse, before.reverse, by simp, fun later member => ?_⟩
    simpa using passed later (List.mem_reverse.1 member)

/-- Pieces change places, but not those that spell the same name. -/
structure Reordered (first second : List String) : Prop where
  /-- The pieces are the same. -/
  perm : first.Perm second
  /-- The pieces that spell a name follow one another as before. -/
  stable : ∀ name, first.filter (Url.spells name) = second.filter (Url.spells name)

/-- Whether pieces change places so can be found out from the names that they spell. -/
instance (first second : List String) : Decidable (Reordered first second) :=
  decidable_of_iff
    (first.Perm second ∧ ∀ name ∈ first.map Url.pieceName,
      first.filter (Url.spells name) = second.filter (Url.spells name))
    ⟨fun ⟨perm, stable⟩ => ⟨perm, fun name => by
        by_cases spelled : name ∈ first.map Url.pieceName
        · exact stable name spelled
        · have unspelled : ∀ piece ∈ first, ¬Url.spells name piece := fun piece member spells =>
            spelled (List.mem_map.2 ⟨piece, member, (Url.spells_iff.1 spells).2⟩)
          rw [List.filter_eq_nil_iff.2 unspelled, List.filter_eq_nil_iff.2 fun piece member =>
            unspelled piece (perm.mem_iff.2 member)]⟩,
      fun reordered => ⟨reordered.perm, fun name _ => reordered.stable name⟩⟩

/-- The pieces of a query may change places, if those that spell the same name do not, and leave the
same parameters: under each name the value of the last of its pieces. -/
theorem ofQuery_reordered {first second : List String}
    (whole : ∀ piece ∈ first, '&' ∉ piece.toList ∧ piece.toList.head? ≠ some '?')
    (reordered : Reordered first second) :
    let params := Params.ofQuery ("&".intercalate first)
    let others := Params.ofQuery ("&".intercalate second)
    params = others
      ∧ params.keys.Pairwise (· < ·)
      ∧ (∀ name, name ∈ params.keys
          ↔ ∃ piece ∈ first, piece ≠ "" ∧ Url.pieceName piece = name)
      ∧ (∀ name value, (name, value) ∈ params.entries ↔ ∃ before piece after,
          first = before ++ piece :: after ∧ piece ≠ "" ∧ Url.pieceName piece = name
            ∧ Url.pieceValue piece = value
            ∧ ∀ later ∈ after, later ≠ "" → Url.pieceName later ≠ name)
      ∧ (∀ {Q : Type} (filter : Filter Q) (schema : Option Schema),
          (filter.boundTo params).compile schema = (filter.boundTo others).compile schema)
      ∧ (∀ sorting : Sorting,
          (sorting.boundTo params).orderings = (sorting.boundTo others).orderings)
      ∧ ∀ page : Page, (page.rebind (.params params)).cursor
          = (page.rebind (.params others)).cursor := by
  intro params others
  have wholeSecond : ∀ piece ∈ second, '&' ∉ piece.toList ∧ piece.toList.head? ≠ some '?' :=
    fun piece member => whole piece (reordered.perm.mem_iff.2 member)
  have same : params = others := Params.eq_of_find?_eq fun name => by
    rw [Params.find?_ofQuery_intercalate whole, Params.find?_ofQuery_intercalate wholeSecond,
      reordered.stable name]
  have found (name : String) := Params.find?_ofQuery_intercalate whole name
  refine ⟨same, ?ascending, fun name => ?names, fun name value => ?last, ?readers⟩
  case ascending => exact List.pairwise_map.2 params.ascending
  case names =>
    have asked : name ∈ params.keys ↔ (params.find? name).isSome := Keyed.mem_keys_iff
    rw [asked, found, Option.isSome_map, List.getLast?_isSome, Ne, List.filter_eq_nil_iff]
    simp only [Url.spells_iff, not_forall, not_not, exists_prop]
  case last =>
    rw [← Entries.find?_eq_some_iff params.ascending]
    have asked : params.entries.find? name = params.find? name := rfl
    rw [asked, found, Option.map_eq_some_iff]
    simp only [getLast?_filter_eq_some_iff, Url.spells_iff]
    constructor
    · rintro ⟨piece, ⟨before, after, split, ⟨some, own⟩, last⟩, held⟩
      exact ⟨before, piece, after, split, some, own, held,
        fun later member other same => last later member ⟨other, same⟩⟩
    · rintro ⟨before, piece, after, split, some, own, held, last⟩
      exact ⟨piece, ⟨before, after, split, ⟨some, own⟩,
        fun later member both => last later member both.1 both.2⟩, held⟩
  case readers =>
    rw [same]
    exact ⟨fun _ _ => rfl, fun _ => rfl, fun _ => rfl⟩

/-- Two of the pieces spell the same name, one of them with an escape, and keep their order. -/
theorem ofQuery_reordered_escaped_name :
    let first := ["b=2", "%61=1", "", "a=3", "c"]
    let second := ["c", "%61=1", "b=2", "a=3", ""]
    (∀ piece ∈ first, '&' ∉ piece.toList ∧ piece.toList.head? ≠ some '?') ∧ Reordered first second
      ∧ Params.ofQuery "b=2&%61=1&&a=3&c" = Params.ofQuery "c&%61=1&b=2&a=3&"
      ∧ (Params.ofQuery "b=2&%61=1&&a=3&c").entries = [("a", "3"), ("b", "2"), ("c", "")] := by
  intro first second
  have whole : ∀ piece ∈ first, '&' ∉ piece.toList ∧ piece.toList.head? ≠ some '?' := by decide
  have reordered : Reordered first second := by decide +kernel
  exact ⟨whole, reordered, (ofQuery_reordered whole reordered).1, by decide +kernel⟩

end Listing
