import Listing.Proofs.Compilation
import Mathlib.Data.List.Forall2
import Mathlib.Data.List.TakeWhile

/-!
# Two sources of parameters

A query is read as it stands, or from a URI in which some of its bytes are spelled by percent
escapes. Both readings find the same names and values, because only bytes that mean nothing in a
form are spelled so: no escape joins with a percent sign in front of it, and none takes part in one
that stood there before. Main statements: `percentDecode_respelled` and `parseForm_respelled` for
bytes of which any that mean nothing are escaped, `queryOf_path` for the query of a path, and
`ofUri_eq_ofQuery` for parameters and for the filters that follow them.
-/
namespace Listing

namespace Url

/-! ## Bytes and their escapes -/

/-- The bytes other than hexadecimal digits that mean something in a form. -/
def formMarks : List UInt8 := [byteOf '%', byteOf '+', byteOf '&', byteOf '=']

/-- A byte that means nothing in a form, so that its escape may take its place. -/
def Plain (byte : UInt8) : Prop := hexDigitValue byte = none ∧ byte ∉ formMarks

/-- The bytes that are no hexadecimal digits. -/
theorem hexDigitValue_eq_none_iff {byte : UInt8} :
    hexDigitValue byte = none ↔ ¬(0x30 ≤ byte.toNat ∧ byte.toNat ≤ 0x39)
      ∧ ¬(0x41 ≤ byte.toNat ∧ byte.toNat ≤ 0x46) ∧ ¬(0x61 ≤ byte.toNat ∧ byte.toNat ≤ 0x66) := by
  simp only [hexDigitValue, UInt8.le_iff_toNat_le, UInt8.reduceToNat]
  split
  · simp_all
  · split
    · simp_all
    · split <;> simp_all

/-- The bytes that a URL escapes mean nothing in a form. -/
theorem plain_of_isEscaped {kind : SchemeKind} {byte : UInt8} (escaped : isEscaped kind byte) :
    Plain byte := by
  have codes : byte.toNat ≤ 0x20 ∨ 0x7F ≤ byte.toNat
      ∨ byte.toNat = 0x22 ∨ byte.toNat = 0x23 ∨ byte.toNat = 0x3C ∨ byte.toNat = 0x3E
      ∨ byte.toNat = 0x27 := by
    simp only [isEscaped, Bool.or_eq_true, decide_eq_true_eq, beq_iff_eq, Bool.and_eq_true,
      UInt8.le_iff_toNat_le, ← UInt8.toNat_inj] at escaped
    change (((((byte.toNat ≤ 0x20 ∨ 0x7F ≤ byte.toNat) ∨ byte.toNat = 0x22) ∨ byte.toNat = 0x23)
      ∨ byte.toNat = 0x3C) ∨ byte.toNat = 0x3E) ∨ _ ∧ byte.toNat = 0x27 at escaped
    omega
  refine ⟨hexDigitValue_eq_none_iff.2 (by omega), fun mark => ?_⟩
  simp only [formMarks, List.mem_cons, List.not_mem_nil, or_false, ← UInt8.toNat_inj] at mark
  change byte.toNat = 0x25 ∨ byte.toNat = 0x2B ∨ byte.toNat = 0x26 ∨ byte.toNat = 0x3D at mark
  omega

/-- A hexadecimal digit has the value it is written for, and is none of the marks. -/
theorem hexDigit_spec {value : UInt8} (small : value.toNat < 16) :
    hexDigitValue (hexDigit value) = some value ∧ hexDigit value ∉ formMarks := by
  have digits : ∀ number < 16, hexDigitValue (hexDigit (UInt8.ofNat number))
      = some (UInt8.ofNat number) ∧ hexDigit (UInt8.ofNat number) ∉ formMarks := by decide
  have own := digits value.toNat small
  rwa [UInt8.ofNat_toNat] at own

/-- The two digits of a byte are hexadecimal. -/
theorem digits_lt (byte : UInt8) : (byte / 16).toNat < 16 ∧ (byte % 16).toNat < 16 := by
  have bound := byte.toNat_lt
  rw [UInt8.toNat_div, UInt8.toNat_mod]
  change byte.toNat / 16 < 16 ∧ byte.toNat % 16 < 16
  omega

/-- The digits of an escape spell its byte. -/
theorem escapedByte_hexDigit (byte : UInt8) :
    escapedByte (hexDigit (byte / 16)) (hexDigit (byte % 16)) = some byte := by
  have whole : byte / 16 * 16 + byte % 16 = byte := by
    have bound := byte.toNat_lt
    rw [← UInt8.toNat_inj, UInt8.toNat_add, UInt8.toNat_mul, UInt8.toNat_div, UInt8.toNat_mod]
    change (byte.toNat / 16 * 16 % 2 ^ 8 + byte.toNat % 16) % 2 ^ 8 = byte.toNat
    omega
  rw [escapedByte, (hexDigit_spec (digits_lt byte).1).1, (hexDigit_spec (digits_lt byte).2).1]
  exact congrArg some whole

/-- The second list of bytes is the first with some bytes spelled by their escapes, all of which
mean nothing in a form. -/
inductive Respelled : List UInt8 → List UInt8 → Prop
  /-- No bytes are spelled by none. -/
  | nil : Respelled [] []
  /-- A byte may stand for itself. -/
  | same (byte : UInt8) {raw spelled : List UInt8} (rest : Respelled raw spelled) :
      Respelled (byte :: raw) (byte :: spelled)
  /-- A byte that means nothing may be spelled by its escape. -/
  | escaped {byte : UInt8} (plain : Plain byte) {raw spelled : List UInt8}
      (rest : Respelled raw spelled) : Respelled (byte :: raw) (escape byte ++ spelled)

/-- The query of a URL respells the bytes of its characters. -/
theorem respelled_escapeQuery (kind : SchemeKind) (query : List Char) :
    Respelled (query.flatMap String.utf8EncodeChar) (escapeQuery kind query) := by
  rw [escapeQuery]
  generalize query.flatMap String.utf8EncodeChar = bytes
  induction bytes with
  | nil => exact .nil
  | cons byte rest ih =>
    rw [List.flatMap_cons]
    by_cases escaped : isEscaped kind byte
    · rw [if_pos escaped]
      exact .escaped (plain_of_isEscaped escaped) ih
    · rw [if_neg escaped]
      exact .same byte ih

/-! ## Escapes are read back -/

/-- The byte that the two characters in front of a text spell after a percent sign, and the text
after them. -/
def escapeAhead : List UInt8 → Option (UInt8 × List UInt8)
  | high :: low :: rest => (escapedByte high low).map fun decoded => (decoded, rest)
  | _ => none

/-- A byte other than the percent sign stands for itself. -/
theorem percentDecode_of_ne {byte : UInt8} (other : byte ≠ byteOf '%') (rest : List UInt8) :
    percentDecode (byte :: rest) = byte :: percentDecode rest := by
  rw [percentDecode.eq_def]
  exact if_neg other

/-- A percent sign with two digits after it stands for the byte that they spell, and every other one
for itself. -/
theorem percentDecode_percent (rest : List UInt8) :
    percentDecode (byteOf '%' :: rest)
      = match escapeAhead rest with
        | some (decoded, more) => decoded :: percentDecode more
        | none => byteOf '%' :: percentDecode rest := by
  rw [percentDecode.eq_def]
  dsimp only
  rw [if_pos rfl]
  match rest with
  | [] => rfl
  | [_] => rfl
  | high :: low :: more =>
    dsimp only [escapeAhead]
    cases escapedByte high low <;> rfl

/-- The escape of a byte is read as the byte. -/
theorem percentDecode_escape (byte : UInt8) (rest : List UInt8) :
    percentDecode (escape byte ++ rest) = byte :: percentDecode rest := by
  have ahead : escapeAhead (hexDigit (byte / 16) :: hexDigit (byte % 16) :: rest)
      = some (byte, rest) := by
    rw [escapeAhead, escapedByte_hexDigit]
    rfl
  change percentDecode (byteOf '%' :: hexDigit (byte / 16) :: hexDigit (byte % 16) :: rest) = _
  rw [percentDecode_percent, ahead]

/-- No escape goes on with two bytes of which one is no digit. -/
theorem escapeAhead_eq_none {high low : UInt8}
    (other : hexDigitValue high = none ∨ hexDigitValue low = none) (rest : List UInt8) :
    escapeAhead (high :: low :: rest) = none := by
  have unread : escapedByte high low = none := by
    rw [escapedByte]
    obtain none | none := other
    · rw [none]
    · rw [none]
      cases hexDigitValue high <;> rfl
  rw [escapeAhead, unread]
  rfl

/-- After a percent sign respelled bytes spell the byte that the bytes themselves spell, or neither
of the two spells one. -/
theorem Respelled.escapeAhead {raw spelled : List UInt8} (respelled : Respelled raw spelled) :
    (escapeAhead raw = none ∧ escapeAhead spelled = none)
      ∨ ∃ decoded rawRest spelledRest, escapeAhead raw = some (decoded, rawRest)
        ∧ escapeAhead spelled = some (decoded, spelledRest) ∧ Respelled rawRest spelledRest
        ∧ rawRest.length < raw.length := by
  -- an escaped byte is no digit, and neither is the percent sign that takes its place
  have percent : hexDigitValue (byteOf '%') = none := by decide
  cases respelled with
  | nil => exact .inl ⟨rfl, rfl⟩
  | @escaped byte plain raw spelled rest =>
    refine .inl ⟨?_, escapeAhead_eq_none (.inl percent) _⟩
    cases raw with
    | nil => rfl
    | cons next more => exact escapeAhead_eq_none (.inl plain.1) more
  | @same high raw spelled rest =>
    cases rest with
    | nil => exact .inl ⟨rfl, rfl⟩
    | @escaped low plain raw spelled rest =>
      exact .inl ⟨escapeAhead_eq_none (.inr plain.1) raw, escapeAhead_eq_none (.inr percent) _⟩
    | @same low raw spelled rest =>
      rw [Url.escapeAhead, Url.escapeAhead]
      cases escapedByte high low with
      | none => exact .inl ⟨rfl, rfl⟩
      | some decoded =>
        refine .inr ⟨decoded, raw, spelled, rfl, rfl, rest, ?_⟩
        simp only [List.length_cons]
        omega

/-- Respelled bytes are read as the bytes themselves are. -/
theorem percentDecode_respelled {raw spelled : List UInt8} (respelled : Respelled raw spelled) :
    percentDecode spelled = percentDecode raw := by
  induction size : raw.length using Nat.strongRecOn generalizing raw spelled with
  | ind length ih =>
    subst size
    cases respelled with
    | nil => rfl
    | @escaped byte plain raw spelled rest =>
      have other : byte ≠ byteOf '%' := fun percent => plain.2 (percent ▸ by decide)
      rw [percentDecode_escape, percentDecode_of_ne other, ih raw.length (by simp) rest rfl]
    | @same byte raw spelled rest =>
      have later := ih raw.length (by simp) rest rfl
      by_cases percent : byte = byteOf '%'
      · subst percent
        rw [percentDecode_percent, percentDecode_percent]
        obtain ⟨left, right⟩ | ⟨decoded, _, _, left, right, more, shorter⟩ := rest.escapeAhead
        · rw [left, right, later]
        · rw [left, right]
          exact congrArg (decoded :: ·) (ih _ (Nat.lt_succ_of_lt shorter) more rfl)
      · rw [percentDecode_of_ne percent, percentDecode_of_ne percent, later]

/-! ## Forms are read alike -/

/-- Plus signs that stand for spaces do so in respelled bytes as well. -/
theorem Respelled.map_plus {raw spelled : List UInt8} (respelled : Respelled raw spelled) :
    Respelled (raw.map fun byte => if byte = byteOf '+' then byteOf ' ' else byte)
      (spelled.map fun byte => if byte = byteOf '+' then byteOf ' ' else byte) := by
  induction respelled with
  | nil => exact .nil
  | same byte _ ih => exact .same _ ih
  | @escaped byte plain raw spelled _ ih =>
    have plus : byteOf '+' ∈ formMarks := by decide
    have own : byte ≠ byteOf '+' := fun same => plain.2 (same ▸ plus)
    have digits := digits_lt byte
    have high : hexDigit (byte / 16) ≠ byteOf '+' :=
      fun same => (hexDigit_spec digits.1).2 (same ▸ plus)
    have low : hexDigit (byte % 16) ≠ byteOf '+' :=
      fun same => (hexDigit_spec digits.2).2 (same ▸ plus)
    rw [List.map_cons, List.map_append, if_neg own]
    have kept : (escape byte).map (fun byte => if byte = byteOf '+' then byteOf ' ' else byte)
        = escape byte := by
      rw [escape, List.map_cons, List.map_cons, List.map_cons, if_neg high, if_neg low]
      rfl
    rw [kept]
    exact .escaped plain ih

/-- A name or a value is the same in respelled bytes. -/
theorem decodeComponent_respelled {raw spelled : List UInt8} (respelled : Respelled raw spelled) :
    decodeComponent spelled = decodeComponent raw := by
  rw [decodeComponent, decodeComponent, percentDecode_respelled respelled.map_plus]

/-- A byte that means nothing separates neither pieces nor names from values, and neither does any
byte of its escape. -/
theorem Plain.ne_separator {byte separator : UInt8} (plain : Plain byte)
    (mark : separator ∈ [byteOf '&', byteOf '=']) :
    byte ≠ separator ∧ ∀ other ∈ escape byte, other ≠ separator := by
  have marks : separator ∈ formMarks ∧ byteOf '%' ≠ separator := by
    simp only [List.mem_cons, List.not_mem_nil, or_false] at mark
    obtain rfl | rfl := mark <;> exact ⟨by decide, by decide⟩
  refine ⟨fun same => plain.2 (same ▸ marks.1), fun other member => ?_⟩
  have digits := digits_lt byte
  simp only [escape, List.mem_cons, List.not_mem_nil, or_false] at member
  obtain rfl | rfl | rfl := member
  · exact marks.2
  · exact fun same => (hexDigit_spec digits.1).2 (same ▸ marks.1)
  · exact fun same => (hexDigit_spec digits.2).2 (same ▸ marks.1)

/-- The pieces of respelled bytes are the pieces of the bytes, respelled. -/
theorem Respelled.pieces {raw spelled : List UInt8} (respelled : Respelled raw spelled) :
    List.Forall₂ Respelled (raw.splitOn (byteOf '&')) (spelled.splitOn (byteOf '&')) := by
  induction respelled with
  | nil => exact .cons .nil .nil
  | @same byte raw spelled rest ih =>
    rw [List.splitOn_cons_eq_if_modifyHead, List.splitOn_cons_eq_if_modifyHead]
    generalize raw.splitOn (byteOf '&') = left, spelled.splitOn (byteOf '&') = right at ih ⊢
    split
    · exact .cons .nil ih
    · cases ih with
      | nil => exact .nil
      | cons first more => exact .cons (.same byte first) more
  | @escaped byte plain raw spelled rest ih =>
    obtain ⟨own, others⟩ := plain.ne_separator (show byteOf '&' ∈ _ by decide)
    have absent : byteOf '&' ∉ escape byte := fun member => others _ member rfl
    rw [List.splitOn_cons_eq_if_modifyHead, if_neg (mt beq_iff_eq.1 own),
      Text.splitOn_append_of_not_mem absent]
    generalize raw.splitOn (byteOf '&') = left, spelled.splitOn (byteOf '&') = right at ih ⊢
    cases ih with
    | nil => exact .nil
    | cons first more => exact .cons (.escaped plain first) more

/-- Respelled bytes hold an equals sign where the bytes do. -/
theorem Respelled.cut {raw spelled : List UInt8} (respelled : Respelled raw spelled) :
    Option.Rel (fun left right => Respelled left.1 right.1 ∧ Respelled left.2 right.2)
      (Text.cut (byteOf '=') raw) (Text.cut (byteOf '=') spelled) := by
  induction respelled with
  | nil => exact .none
  | @same byte raw spelled rest ih =>
    rw [Text.cut, Text.cut]
    by_cases separates : byte = byteOf '='
    · rw [if_pos separates, if_pos separates]
      exact .some ⟨.nil, rest⟩
    · rw [if_neg separates, if_neg separates]
      generalize Text.cut (byteOf '=') raw = left, Text.cut (byteOf '=') spelled = right at ih ⊢
      cases ih with
      | none => exact .none
      | some parts => exact .some ⟨.same byte parts.1, parts.2⟩
  | @escaped byte plain raw spelled rest ih =>
    obtain ⟨own, others⟩ := plain.ne_separator (show byteOf '=' ∈ _ by decide)
    have escape : Text.cut (byteOf '=') (escape byte ++ spelled)
        = (Text.cut (byteOf '=') spelled).map fun parts => (escape byte ++ parts.1, parts.2) := by
      rw [escape] at others ⊢
      simp only [List.cons_append, List.nil_append, Text.cut,
        if_neg (others _ List.mem_cons_self), if_neg (others (hexDigit (byte / 16)) (by simp)),
        if_neg (others (hexDigit (byte % 16)) (by simp)), Option.map_map]
      rfl
    rw [escape, Text.cut, if_neg own]
    generalize Text.cut (byteOf '=') raw = left, Text.cut (byteOf '=') spelled = right at ih ⊢
    cases ih with
    | none => exact .none
    | some parts => exact .some ⟨.escaped plain parts.1, parts.2⟩

/-- The name and the value of a piece are the same in respelled bytes. -/
theorem decodePiece_respelled {raw spelled : List UInt8} (respelled : Respelled raw spelled) :
    decodePiece spelled = decodePiece raw := by
  have parts := respelled.cut
  rw [decodePiece, decodePiece]
  generalize Text.cut (byteOf '=') raw = left, Text.cut (byteOf '=') spelled = right at parts ⊢
  cases parts with
  | none => rw [decodeComponent_respelled respelled]
  | some parts =>
    obtain ⟨name, value⟩ := parts
    dsimp only
    rw [decodeComponent_respelled name, decodeComponent_respelled value]

/-- Respelled bytes are empty when the bytes are. -/
theorem Respelled.isEmpty_eq {raw spelled : List UInt8} (respelled : Respelled raw spelled) :
    spelled.isEmpty = raw.isEmpty := by
  cases respelled <;> rfl

/-- Respelled bytes have the names and values that the bytes have. -/
theorem parseForm_respelled {raw spelled : List UInt8} (respelled : Respelled raw spelled) :
    parseForm spelled = parseForm raw := by
  have pieces := respelled.pieces
  rw [parseForm, parseForm]
  generalize raw.splitOn (byteOf '&') = left, spelled.splitOn (byteOf '&') = right at pieces ⊢
  induction pieces with
  | nil => rfl
  | cons first more ih =>
    rw [List.filter_cons, List.filter_cons, first.isEmpty_eq]
    split
    · rw [List.map_cons, List.map_cons, decodePiece_respelled first, ih]
    · exact ih

/-! ## The query of a path -/

/-- The characters that are taken out of a URL wherever they stand. -/
def lineMarks : List Char := ['\t', '\n', '\r']

/-- A reference without controls and spaces at its ends, and without tabs and line ends, is kept. -/
theorem cleanReference_eq {reference : List Char}
    (front : ∀ c ∈ reference.head?, 0x20 < c.toNat)
    (back : ∀ c ∈ reference.getLast?, 0x20 < c.toNat)
    (unbroken : ∀ c ∈ reference, c ∉ lineMarks) : cleanReference reference = reference := by
  have kept {text : List Char} (front : ∀ c ∈ text.head?, 0x20 < c.toNat) :
      (text.dropWhile fun c => decide (c.toNat ≤ 0x20)) = text := by
    cases text with
    | nil => rfl
    | cons c rest =>
      have outside := front c rfl
      exact List.dropWhile_cons_of_neg (by simpa using outside)
  have reversed : ∀ c ∈ reference.reverse.head?, 0x20 < c.toNat := by
    rwa [List.head?_reverse]
  rw [cleanReference, kept front, kept reversed, List.reverse_reverse]
  refine List.filter_eq_self.2 fun c member => ?_
  have whole := unbroken c member
  simp only [lineMarks, List.mem_cons, List.not_mem_nil, or_false, not_or] at whole
  simp [whole]

/-- The query of a path is what stands after its question mark. -/
theorem queryAfter_path (kind : SchemeKind) {path query : List Char}
    (bare : ∀ c ∈ path, c ≠ '?' ∧ c ≠ '#') (whole : '#' ∉ query) :
    queryAfter kind (path ++ '?' :: query) = escapeQuery kind query := by
  have front : (path ++ '?' :: query).dropWhile (fun c => c != '?' && c != '#') = '?' :: query := by
    rw [List.dropWhile_append_of_pos fun c member => by simp [bare c member]]
    rfl
  have back : query.takeWhile (· != '#') = query := by
    refine List.takeWhile_eq_self_iff.2 fun c member => ?_
    rw [bne_iff_ne]
    rintro rfl
    exact whole member
  rw [queryAfter, front]
  exact congrArg (escapeQuery kind) back

/-- A path after whose first slash there is no other one names no host. -/
theorem queryOfPath_of_hostless {path : List Char} (rooted : path.head? = some '/')
    (hostless : ∀ c ∈ path[1]?, ¬isSlash c) : queryOfPath path = .ok (queryAfter .web path) := by
  cases path with
  | nil => contradiction
  | cons first rest =>
    obtain rfl := Option.some.inj rooted
    cases rest with
    | nil => rfl
    | cons second more =>
      have host : ¬isSlash second := hostless second rfl
      have other : second ≠ '/' := by
        rintro rfl
        exact host rfl
      rw [queryOfPath.eq_def]
      simp [other, host]

/-- A path and a query with a question mark between them are a reference whose query is the escaped
query. -/
theorem queryOf_path {path query : List Char} (rooted : path.head? = some '/')
    (hostless : ∀ c ∈ path[1]?, ¬isSlash c) (single : '?' ∉ path) (unmarked : '#' ∉ path ++ query)
    (unbroken : ∀ c ∈ path ++ query, c ∉ lineMarks) (ended : ∀ c ∈ query.getLast?, 0x20 < c.toNat) :
    queryOf (path ++ '?' :: query) = .ok (escapeQuery .web query) := by
  have cleaned : cleanReference (path ++ '?' :: query) = path ++ '?' :: query := by
    refine cleanReference_eq (fun c first => ?_) (fun c last => ?_) fun c member => ?_
    · rw [List.head?_append, rooted] at first
      obtain rfl := Option.some.inj first
      decide
    · rw [List.getLast?_append, List.getLast?_cons] at last
      cases final : query.getLast? with
      | none =>
        rw [final] at last
        obtain rfl := Option.some.inj last
        decide
      | some d =>
        rw [final] at last
        obtain rfl := Option.some.inj last
        exact ended d final
    · obtain earlier | rfl | later : c ∈ path ∨ c = '?' ∨ c ∈ query := by simpa using member
      · exact unbroken c (List.mem_append_left _ earlier)
      · decide
      · exact unbroken c (List.mem_append_right _ later)
  have bare : ∀ c ∈ path, c ≠ '?' ∧ c ≠ '#' := fun c member =>
    ⟨fun same => single (same ▸ member),
      fun same => unmarked (same ▸ List.mem_append_left _ member)⟩
  have after := queryAfter_path .web bare fun member => unmarked (List.mem_append_right _ member)
  have first : (path ++ '?' :: query).head? = some '/' := by rw [List.head?_append, rooted]; rfl
  have second : ∀ c ∈ (path ++ '?' :: query)[1]?, ¬isSlash c := by
    intro c member
    rw [List.getElem?_append] at member
    split at member
    · exact hostless c member
    · have one : path.length = 1 := by
        cases path with
        | nil => contradiction
        | cons _ rest => simp_all
      rw [one] at member
      obtain rfl := Option.some.inj member
      decide
  rw [queryOf, cleaned, if_pos first, queryOfPath_of_hostless first second, after]

end Url

namespace Params

/-- The parameters of a query that begins with no question mark. -/
theorem ofQuery_eq {query : String} (unasked : query.toList.head? ≠ some '?') :
    ofQuery query = ofList (Url.parseForm (query.toList.flatMap String.utf8EncodeChar)) := by
  rw [ofQuery, if_neg unasked]

end Params

namespace Filter

variable {Q : Type}

/-- A filter whose URI is read takes its parameters from it, whatever request is bound. -/
theorem parameters_of_uri {filter : Filter Q} {uri : String} {params : Params}
    (given : filter.uri = some uri) (some : uri.isEmpty = false)
    (read : Params.ofUri uri = .ok params) : filter.parameters = pure params := by
  rw [parameters, given]
  simp only [Option.filter_some, some, Bool.not_false, if_true, read]

end Filter

/-- A path with a query behind a question mark gives the parameters that the query gives, whatever
percent signs, bytes and characters it holds. -/
theorem ofUri_eq_ofQuery (path query : String) (rooted : path.toList.head? = some '/')
    (hostless : ∀ c ∈ path.toList[1]?, ¬Url.isSlash c) (single : '?' ∉ path.toList)
    (unmarked : '#' ∉ path.toList ++ query.toList)
    (unbroken : ∀ c ∈ path.toList ++ query.toList, c ∉ ['\t', '\n', '\r'])
    (unasked : query.toList.head? ≠ some '?')
    (ended : ∀ c ∈ query.toList.getLast?, 0x20 < c.toNat) :
    let uri := path ++ "?" ++ query
    Params.ofUri uri = .ok (Params.ofQuery query)
      ∧ ∀ {Q : Type} (filter : Filter Q) (bound : Option Params) (schema : Option Schema),
        ({ filter with uri := some uri, params := bound } : Filter Q).compile schema
          = ({ filter with uri := none, params := some (Params.ofQuery query) } : Filter Q).compile
            schema := by
  intro uri
  have spelled : uri.toList = path.toList ++ '?' :: query.toList := by
    simp only [uri, String.toList_append, List.append_assoc]
    rfl
  have read : Params.ofUri uri = .ok (Params.ofQuery query) := by
    rw [Params.ofUri, spelled, Url.queryOf_path rooted hostless single unmarked unbroken ended,
      Params.ofQuery_eq unasked,
      ← Url.parseForm_respelled (Url.respelled_escapeQuery .web query.toList)]
  have some : uri.isEmpty = false := by
    rw [String.isEmpty_eq_false_iff]
    intro none
    rw [none] at spelled
    simp at spelled
  refine ⟨read, fun filter bound schema => ?_⟩
  rw [Filter.compile, Filter.compile, Filter.parameters_of_uri rfl some read]
  simp only [Filter.contributions_of_source]
  rfl

/-- Percent signs that spell nothing, bytes that are no character and characters of all kinds are
read alike from a query and from a URI. -/
theorem ofUri_eq_ofQuery_hostile :
    let path := "/users/%3F"
    let query := "name=%\"1%2<é>%C3%28&a+b=%&'=%e2%82&name=%+%"
    path.toList.head? = some '/' ∧ (∀ c ∈ path.toList[1]?, ¬Url.isSlash c)
      ∧ '?' ∉ path.toList ∧ '#' ∉ path.toList ++ query.toList
      ∧ (∀ c ∈ path.toList ++ query.toList, c ∉ ['\t', '\n', '\r'])
      ∧ query.toList.head? ≠ some '?' ∧ (∀ c ∈ query.toList.getLast?, 0x20 < c.toNat)
      ∧ Params.ofUri (path ++ "?" ++ query) = .ok (Params.ofQuery query)
      ∧ (Params.ofQuery query).entries = [("\x27", "\uFFFD"), ("a b", "%"), ("name", "% %")] := by
  intro path query
  have rooted : path.toList.head? = some '/' := by decide
  have hostless : ∀ c ∈ path.toList[1]?, ¬Url.isSlash c := by simp [path, Url.isSlash]
  have single : '?' ∉ path.toList := by decide
  have unmarked : '#' ∉ path.toList ++ query.toList := by decide
  have unbroken : ∀ c ∈ path.toList ++ query.toList, c ∉ ['\t', '\n', '\r'] := by
    simp [path, query]
  have unasked : query.toList.head? ≠ some '?' := by decide
  have ended : ∀ c ∈ query.toList.getLast?, 0x20 < c.toNat := by simp [query]
  exact ⟨rooted, hostless, single, unmarked, unbroken, unasked, ended,
    (ofUri_eq_ofQuery path query rooted hostless single unmarked unbroken unasked ended).1,
    by decide +kernel⟩

end Listing
