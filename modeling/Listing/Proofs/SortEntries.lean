import Listing.Proofs.AllowList

/-!
# Entries of a list of orderings

The orderings of a request are read from a list of entries with commas between them, each by itself.
An entry is read without the white space around it; one minus sign in front of it asks for the
descending direction, and the rest is the name of a field. Main statements: `ordering?_eq` says what
an entry is read as, `orderings_entrywise` that a list is read entry by entry and gives the
orderings back that were written into it, and `orderings_default` which entries of the default
apply.
-/
namespace Listing

namespace Text

/-- Two texts with a comma between them have the pieces of the one and those of the other. -/
theorem split_append_comma (first later : String) :
    split ',' (first ++ "," ++ later) = split ',' first ++ split ',' later := by
  have chars : (first ++ "," ++ later).toList = first.toList ++ ',' :: later.toList := by simp
  rw [split, chars, List.splitOn_append_cons_self, List.map_append]
  rfl

end Text

/-- The sign of a direction in front of a field. -/
def Direction.sign : Direction → String
  | ascending => ""
  | descending => "-"

namespace Sorting

/-! ## What an entry is read as -/

/-- The name of the field of an entry: the entry without the white space around it and without one
minus sign in front. -/
def fieldName (entry : String) : String :=
  let text := Text.trim entry.toList
  String.ofList (if text.head? = some '-' then text.tail else text)

/-- The direction of an entry: descending, when a minus sign stands in front of it. -/
def directionOf (entry : String) : Direction :=
  if (Text.trim entry.toList).head? = some '-' then .descending else .ascending

/-- The ordering that an entry asks for. -/
def orderingOf (sorting : Sorting) (entry : String) : Ordering :=
  ⟨sorting.column (fieldName entry), directionOf entry⟩

/-- A minus sign in front of an entry is taken off and asks for the descending direction. -/
theorem readEntry_eq (entry : List Char) :
    readEntry entry = if entry.head? = some '-' then (entry.tail, .descending)
      else (entry, .ascending) := by
  cases entry with
  | nil => rfl
  | cons c rest =>
    by_cases minus : c = '-'
    · rw [minus]
      rfl
    · rw [if_neg (by simpa using minus), readEntry]
      simpa using minus

/-- An entry is read as the ordering that it asks for if it names a sortable field, and else passed
over. -/
theorem ordering?_eq (sorting : Sorting) (entry : String) :
    sorting.ordering? entry
      = if fieldName entry ≠ "" ∧ sorting.isSortable (fieldName entry) then
          some (sorting.orderingOf entry)
        else none := by
  have read : readEntry (Text.trim entry.toList)
      = ((fieldName entry).toList, directionOf entry) := by
    rw [readEntry_eq, fieldName, directionOf]
    split <;> simp
  rw [ordering?, read]
  simp [orderingOf]

/-- A field is sortable when it is allowed or an entry of the default names it. -/
theorem isSortable_iff {sorting : Sorting} {field : String} :
    sorting.isSortable field
      ↔ field ∈ sorting.fields ∨ ∃ entry ∈ sorting.defaults, entryField entry = field := by
  simp [isSortable]

/-- An alias qualifies the column of a field unless the field is left unqualified. -/
theorem column_eq (sorting : Sorting) (field : String) :
    sorting.column field
      = sorting.settings.dialect.qualify
          (if field ∈ sorting.unqualified then none else sorting.qualifier) field := by
  rw [column]
  by_cases left : field ∈ sorting.unqualified
  · simp [left]
  · cases sorting.qualifier with
    | none => simp
    | some table => simp [left, Option.filter]

/-! ## Requests with a list and without one -/

/-- What is recorded when the orderings of a request are found: the orderings, and an event that
tells how many they are. -/
def resolved (orderings : List Ordering) : Journal (Except Cause (List Ordering)) :=
  ⟨.ok orderings, [.orderingsResolved orderings.length]⟩

/-- The order with a request bound that asks for a list of orderings. -/
def withList (sorting : Sorting) (request : Params) (list : String) : Sorting :=
  sorting.boundTo (request.insert sorting.settings.sortParam list)

/-- The orderings of a list are those of its entries. -/
theorem orderings_withList (sorting : Sorting) (request : Params) {list : String}
    (asked : list ≠ "") :
    (sorting.withList request list).orderings
      = resolved ((Text.split ',' list).filterMap sorting.ordering?) := by
  have entries : sorting.entries (request.insert sorting.settings.sortParam list)
      = Text.split ',' list := by
    rw [Sorting.entries, Params.find?_insert, if_pos rfl]
    simp [asked]
  rw [withList, orderings_boundTo, entries]
  rfl

/-- Without a list, or with an empty one, the orderings are those of the default. -/
theorem orderings_of_unasked {sorting : Sorting} {request : Params}
    (unasked : ∀ list, request.find? sorting.settings.sortParam = some list → list = "") :
    (sorting.boundTo request).orderings
      = resolved (sorting.defaults.filterMap sorting.ordering?) := by
  have entries : sorting.entries request = sorting.defaults := by
    rw [Sorting.entries]
    split
    · rename_i list found
      simp [unasked list found]
    · rfl
  rw [orderings_boundTo, entries]
  rfl

/-! ## Lists that are written and read -/

/-- An entry as it is written into a list: a field and a direction, with white space around them. -/
structure Written where
  /-- The name of the field. -/
  field : String
  /-- The direction. -/
  direction : Direction
  /-- The white space in front. -/
  before : String := ""
  /-- The white space behind. -/
  after : String := ""

namespace Written

/-- The text of an entry. -/
def text (entry : Written) : String :=
  entry.before ++ (entry.direction.sign ++ entry.field) ++ entry.after

/-- An entry that can be read back: its field is sortable and has a name without commas, without a
minus sign in front and without white space at its ends. -/
structure Legible (sorting : Sorting) (entry : Written) : Prop where
  /-- The field is allowed, or an entry of the default names it. -/
  sortable : entry.field ∈ sorting.fields
    ∨ ∃ default ∈ sorting.defaults, entryField default = entry.field
  /-- The field has a name. -/
  named : entry.field ≠ ""
  /-- The name holds no comma. -/
  whole : ',' ∉ entry.field.toList
  /-- The name does not begin with a minus sign. -/
  unsigned : entry.field.toList.head? ≠ some '-'
  /-- The name neither begins nor ends with white space. -/
  tight : Text.Tight entry.field.toList
  /-- Only white space stands around it. -/
  blank : ∀ c ∈ entry.before.toList ++ entry.after.toList, Text.isBlank c

variable {sorting : Sorting} {entry : Written}

/-- Neither the sign of a direction nor the name behind it has white space at its ends. -/
theorem Legible.tight_signed (legible : entry.Legible sorting) :
    Text.Tight (entry.direction.sign.toList ++ entry.field.toList) := by
  cases entry.direction with
  | ascending => exact legible.tight
  | descending =>
    refine ⟨fun c first => ?_, fun c last => legible.tight.2 c ?_⟩
    · obtain rfl := Option.some.inj first
      decide
    · obtain ⟨other, more, spelled⟩ :=
        List.exists_cons_of_ne_nil (mt String.toList_eq_nil_iff.1 legible.named)
      rw [spelled] at last ⊢
      simpa [Direction.sign] using last

/-- What is left of an entry without the white space around it is the sign of its direction and its
field. -/
theorem Legible.trim_text (legible : entry.Legible sorting) :
    Text.trim entry.text.toList = entry.direction.sign.toList ++ entry.field.toList := by
  rw [text, String.toList_append, String.toList_append, String.toList_append]
  exact Text.trim_padded (fun c member => legible.blank c (List.mem_append_left _ member))
    (fun c member => legible.blank c (List.mem_append_right _ member)) legible.tight_signed

/-- The field and the direction of an entry are those that were written. -/
theorem Legible.read_text (legible : entry.Legible sorting) :
    fieldName entry.text = entry.field ∧ directionOf entry.text = entry.direction := by
  rw [fieldName, directionOf, legible.trim_text]
  cases entry.direction with
  | ascending =>
    have unsigned : (Direction.ascending.sign.toList ++ entry.field.toList).head? ≠ some '-' :=
      legible.unsigned
    rw [if_neg unsigned, if_neg unsigned]
    exact ⟨String.ofList_toList, rfl⟩
  | descending => exact ⟨String.ofList_toList, rfl⟩

/-- An entry is read as the ordering by the column of its field in its direction. -/
theorem Legible.ordering?_text (legible : entry.Legible sorting) :
    sorting.ordering? entry.text
      = some ⟨sorting.column entry.field, entry.direction⟩ := by
  obtain ⟨field, direction⟩ := legible.read_text
  rw [ordering?_eq, orderingOf, field, direction,
    if_pos ⟨legible.named, isSortable_iff.2 legible.sortable⟩]

/-- The text of an entry holds no comma. -/
theorem Legible.comma_not_mem_text (legible : entry.Legible sorting) : ',' ∉ entry.text.toList := by
  have around : ',' ∉ entry.before.toList ++ entry.after.toList := fun member =>
    absurd (legible.blank ',' member) (by decide)
  have unsigned : ',' ∉ entry.direction.sign.toList := by
    cases entry.direction <;> decide
  have whole := legible.whole
  simp only [text, String.toList_append, List.mem_append, not_or] at around ⊢
  exact ⟨⟨around.1, unsigned, whole⟩, around.2⟩

end Written

/-- A list that is written from entries that can be read back is not empty and has their texts for
its entries. -/
theorem split_intercalate_text {sorting : Sorting} {entries : List Written} (some : entries ≠ [])
    (legible : ∀ entry ∈ entries, entry.Legible sorting) :
    ",".intercalate (entries.map Written.text) ≠ ""
      ∧ Text.split ',' (",".intercalate (entries.map Written.text)) = entries.map Written.text := by
  have pieces : Text.split ',' (",".intercalate (entries.map Written.text))
      = entries.map Written.text := by
    refine Text.split_intercalate (mt List.map_eq_nil_iff.1 some) fun text member => ?_
    obtain ⟨entry, inside, rfl⟩ := List.mem_map.1 member
    exact (legible entry inside).comma_not_mem_text
  refine ⟨fun empty => ?_, pieces⟩
  -- the only piece of the empty text is the empty text, which names no field
  rw [empty] at pieces
  obtain ⟨entry, inside, blank⟩ : ∃ entry ∈ entries, entry.text = "" := by
    have only : "" ∈ entries.map Written.text := pieces ▸ List.mem_singleton_self ""
    exact List.mem_map.1 only
  have field := (legible entry inside).read_text.1
  rw [blank] at field
  exact (legible entry inside).named field.symm

/-- An entry that names no sortable field is passed over. -/
theorem ordering?_eq_none {sorting : Sorting} {entry : String}
    (idle : fieldName entry = "" ∨ sorting.isSortable (fieldName entry) = false) :
    sorting.ordering? entry = none := by
  rw [ordering?_eq, if_neg]
  rintro ⟨named, sortable⟩
  obtain unnamed | unsortable := idle
  · exact named unnamed
  · exact Bool.false_ne_true (unsortable.symm.trans sortable)

/-- A list of orderings is read entry by entry, and a list that is written from sortable fields and
directions gives them back in order. -/
theorem orderings_entrywise (sorting : Sorting) (request : Params) :
    (∀ other list, other.find? sorting.settings.sortParam = some list →
        (sorting.boundTo other).orderings = (sorting.withList request list).orderings)
      ∧ (∀ first later, first ≠ "" → later ≠ "" → ∃ before after,
        (sorting.withList request first).orderings = resolved before
          ∧ (sorting.withList request later).orderings = resolved after
          ∧ (sorting.withList request (first ++ "," ++ later)).orderings
            = resolved (before ++ after))
      ∧ (∀ entry, ',' ∉ entry.toList →
          (fieldName entry = "" ∨ sorting.isSortable (fieldName entry) = false) →
          ∀ first later, first ≠ "" → later ≠ "" →
            (sorting.withList request (first ++ "," ++ entry ++ "," ++ later)).orderings
                = (sorting.withList request (first ++ "," ++ later)).orderings
              ∧ (sorting.withList request (entry ++ "," ++ later)).orderings
                = (sorting.withList request later).orderings
              ∧ (sorting.withList request (first ++ "," ++ entry)).orderings
                = (sorting.withList request first).orderings)
      ∧ ∀ entries : List Written, entries ≠ [] → (∀ entry ∈ entries, entry.Legible sorting) →
          (sorting.withList request (",".intercalate (entries.map Written.text))).orderings
            = resolved (entries.map fun entry =>
                ⟨sorting.settings.dialect.qualify
                  (if entry.field ∈ sorting.unqualified then none else sorting.qualifier)
                  entry.field, entry.direction⟩) := by
  have asked (first later : String) : first ++ "," ++ later ≠ "" := by simp
  have both (first later : String) :
      (Text.split ',' (first ++ "," ++ later)).filterMap sorting.ordering?
        = (Text.split ',' first).filterMap sorting.ordering?
          ++ (Text.split ',' later).filterMap sorting.ordering? := by
    rw [Text.split_append_comma, List.filterMap_append]
  refine ⟨fun other list found => ?list, fun first later someFirst someLater => ?concat,
    fun entry absent idle first later someFirst someLater => ?pass,
    fun entries some legible => ?decode⟩
  case list =>
    refine orderings_eq_of_find?_eq (found.trans ?_)
    rw [Params.find?_insert, if_pos rfl]
  case concat =>
    refine ⟨_, _, orderings_withList sorting request someFirst,
      orderings_withList sorting request someLater, ?_⟩
    rw [orderings_withList sorting request (asked first later), both]
  case pass =>
    have nothing : (Text.split ',' entry).filterMap sorting.ordering? = [] := by
      rw [Text.split_of_not_mem absent, List.filterMap_cons_none (ordering?_eq_none idle),
        List.filterMap_nil]
    refine ⟨?_, ?_, ?_⟩
    · rw [orderings_withList _ _ (asked _ _), orderings_withList _ _ (asked _ _), both, both, both,
        nothing, List.append_nil]
    · rw [orderings_withList _ _ (asked _ _), orderings_withList _ _ someLater, both, nothing,
        List.nil_append]
    · rw [orderings_withList _ _ (asked _ _), orderings_withList _ _ someFirst, both, nothing,
        List.append_nil]
  case decode =>
    obtain ⟨nonempty, pieces⟩ := split_intercalate_text some legible
    rw [orderings_withList _ _ nonempty, pieces, List.filterMap_map]
    refine congrArg resolved (List.filterMap_eq_map_iff_forall_eq_some.2 fun entry inside => ?_)
    rw [Function.comp_apply, (legible entry inside).ordering?_text, column_eq]

/-- White space around an entry, an unknown field between two others and a default without its sign
are read as the request means them. -/
theorem orderings_entrywise_padded :
    let sorting : Sorting :=
      { fields := ["name"], defaults := ["-id"], qualifier := some "u", unqualified := ["id"] }
    let entries : List Written := [⟨"name", .descending, " ", "\t"⟩, ⟨"id", .ascending, "", ""⟩]
    (∀ entry ∈ entries, entry.Legible sorting)
      ∧ (sorting.withList Params.empty " -name\t,id").orderings
        = resolved [⟨"\"u\".\"name\"", .descending⟩, ⟨"\"id\"", .ascending⟩]
      ∧ (sorting.withList Params.empty "name,-wrong,-id").orderings
        = (sorting.withList Params.empty "name,-id").orderings := by
  intro sorting entries
  have legible : ∀ entry ∈ entries, entry.Legible sorting := by
    refine List.forall_mem_cons.2 ⟨?_, List.forall_mem_singleton.2 ?_⟩
    · exact ⟨by decide, by decide, by decide, by decide, by decide,
        List.all_eq_true.1 (by decide)⟩
    · exact ⟨by decide, by decide, by decide, by decide, by decide,
        List.all_eq_true.1 (by decide)⟩
  obtain ⟨-, -, pass, decode⟩ := orderings_entrywise sorting Params.empty
  have idle := pass "-wrong" (by decide) (.inr (by decide +kernel)) "name" "-id" (by decide)
    (by decide)
  exact ⟨legible, decode entries (by decide) legible, idle.1⟩

/-! ## The default -/

/-- Of entries that name fields, those apply whose fields are sortable. -/
theorem filterMap_ordering? {sorting : Sorting} {entries : List String}
    (named : ∀ entry ∈ entries, fieldName entry ≠ "") :
    entries.filterMap sorting.ordering?
      = (entries.filter fun entry => sorting.isSortable (fieldName entry)).map
          sorting.orderingOf := by
  induction entries with
  | nil => rfl
  | cons entry rest ih =>
    have own := named entry List.mem_cons_self
    have later := ih fun entry member => named entry (List.mem_cons_of_mem _ member)
    rw [List.filterMap_cons, ordering?_eq, List.filter_cons]
    by_cases sortable : sorting.isSortable (fieldName entry) = true
    · rw [if_pos ⟨own, sortable⟩, if_pos sortable, later]
      rfl
    · rw [if_neg fun both => sortable both.2, if_neg sortable, later]

/-- An entry without white space at its ends names its field with at most a minus sign in front. -/
theorem fieldName_of_trimmed {entry : String} (trimmed : Text.trim entry.toList = entry.toList) :
    entryField entry = fieldName entry := by
  rw [entryField, readEntry_eq, fieldName, trimmed]
  split <;> rfl

/-- An entry of the default without white space at its ends names a sortable field. -/
theorem isSortable_of_trimmed {sorting : Sorting} {entry : String}
    (listed : entry ∈ sorting.defaults) (trimmed : Text.trim entry.toList = entry.toList) :
    sorting.isSortable (fieldName entry) :=
  isSortable_iff.2 (.inr ⟨entry, listed, fieldName_of_trimmed trimmed⟩)

/-- The entries of a default that apply are those whose fields are sortable, and that of an entry
without white space around it always is. -/
theorem orderings_default (sorting : Sorting) (request : Params)
    (unasked : ∀ list, request.find? sorting.settings.sortParam = some list → list = "")
    (named : ∀ entry ∈ sorting.defaults, fieldName entry ≠ "") :
    (sorting.boundTo request).orderings
        = resolved ((sorting.defaults.filter fun entry => sorting.isSortable (fieldName entry)).map
            sorting.orderingOf)
      ∧ (∀ entry ∈ sorting.defaults, Text.trim entry.toList = entry.toList →
          sorting.isSortable (fieldName entry))
      ∧ ((∀ entry ∈ sorting.defaults, Text.trim entry.toList = entry.toList
            ∨ fieldName entry ∈ sorting.fields) →
          (sorting.boundTo request).orderings
            = resolved (sorting.defaults.map sorting.orderingOf))
      ∧ ((sorting.boundTo request).orderings = resolved (sorting.defaults.map sorting.orderingOf)
          ↔ ∀ entry ∈ sorting.defaults, fieldName entry ∈ sorting.fields
            ∨ ∃ other ∈ sorting.defaults, entryField other = fieldName entry) := by
  have found := orderings_of_unasked unasked
  rw [filterMap_ordering? named] at found
  have full : (sorting.boundTo request).orderings
        = resolved (sorting.defaults.map sorting.orderingOf)
      ↔ ∀ entry ∈ sorting.defaults, sorting.isSortable (fieldName entry) := by
    rw [found, ← List.filter_eq_self]
    constructor
    · intro same
      have lists := Except.ok.inj (congrArg Journal.value same)
      have lengths := congrArg List.length lists
      rw [List.length_map, List.length_map] at lengths
      exact List.filter_sublist.eq_of_length lengths
    · intro kept
      rw [kept]
  refine ⟨found, fun entry listed trimmed => isSortable_of_trimmed listed trimmed,
    fun each => full.2 fun entry listed => ?_, ?_⟩
  · obtain trimmed | allowed := each entry listed
    · exact isSortable_of_trimmed listed trimmed
    · exact isSortable_iff.2 (.inl allowed)
  · rw [full]
    exact forall₂_congr fun entry _ => isSortable_iff

/-- An entry of the default with white space around it applies because another one names its field
without. -/
theorem orderings_default_named_twice :
    let sorting : Sorting := { fields := [], defaults := ["-id", " id\t", "--at", " gone"] }
    let request := Params.empty.insert "sort" ""
    (∀ list, request.find? sorting.settings.sortParam = some list → list = "")
      ∧ (∀ entry ∈ sorting.defaults, fieldName entry ≠ "")
      ∧ (sorting.boundTo request).orderings
        = resolved [⟨"\"id\"", .descending⟩, ⟨"\"id\"", .ascending⟩, ⟨"\"-at\"", .descending⟩] := by
  intro sorting request
  have unasked : ∀ list, request.find? sorting.settings.sortParam = some list → list = "" :=
    fun list found => (Option.some.inj found).symm
  have named : ∀ entry ∈ sorting.defaults, fieldName entry ≠ "" := by decide +kernel
  have applied := (orderings_default sorting request unasked named).1
  exact ⟨unasked, named, applied.trans (congrArg resolved (by decide +kernel))⟩

/-- A default does not always apply in full: the entry ` id` names the field `id`, which no entry of
the default is found to name, and is passed over. -/
theorem orderings_default_ne_padded :
    let sorting : Sorting := { fields := [], defaults := [" id"] }
    Params.empty.find? sorting.settings.sortParam = none ∧ fieldName " id" = "id"
      ∧ sorting.orderingOf " id" = ⟨"\"id\"", .ascending⟩
      ∧ (sorting.boundTo Params.empty).orderings = resolved []
      ∧ (sorting.boundTo Params.empty).orderings ≠ resolved [⟨"\"id\"", .ascending⟩] := by
  intro sorting
  have passed : (sorting.boundTo Params.empty).orderings = resolved [] := by
    have read := @orderings_of_unasked sorting Params.empty nofun
    exact read.trans (congrArg resolved (by decide +kernel))
  refine ⟨rfl, by decide +kernel, by decide +kernel, passed, ?_⟩
  rw [passed]
  exact fun same => List.cons_ne_nil _ _ (Except.ok.inj (congrArg Journal.value same)).symm

end Sorting

end Listing
