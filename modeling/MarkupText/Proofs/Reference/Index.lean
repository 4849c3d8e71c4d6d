import MarkupText.Index
import MarkupText.Reference.Index
import MarkupText.Proofs.Reference.Names

/-!
# Looking up names is exact

A name is found with a text exactly if the table has them in one row (`Exact`). The table in use
is the one that every list of its references makes, in whatever order they are listed
(`index_eq_entries`), and a look-up in a table that was made like this is exact for every list in
which no name has two meanings (`exact_find?_index`).
-/

set_option autoImplicit false

namespace MarkupText.Reference.Names

/-! ### Lines and entries -/

namespace Listing

theorem reference_ofEntry (entry : Entry) :
    (ofEntry entry).reference = Byte.ampersand :: (entry.name ++ [Byte.semicolon]) := rfl

theorem ofListing?_ofEntry (entry : Entry) : Entry.ofListing? (ofEntry entry) = some entry := by
  rw [Entry.ofListing?, reference_ofEntry]
  simp [ofEntry]

theorem eq_ofEntry_of_ofListing? {listing : Listing} {entry : Entry}
    (h : Entry.ofListing? listing = some entry) : listing = ofEntry entry := by
  obtain ⟨reference, characters⟩ := listing
  cases reference with
  | nil => cases h
  | cons b rest =>
    simp only [Entry.ofListing?] at h
    split_ifs at h with ends
    obtain ⟨rfl, last⟩ := ends
    obtain ⟨name, rfl⟩ := List.getLast?_eq_some_iff.1 last
    rw [List.dropLast_concat] at h
    cases h
    rfl

theorem ofEntry_injective : Function.Injective ofEntry := by
  intro entry other same
  have read := ofListing?_ofEntry entry
  rw [same, ofListing?_ofEntry] at read
  exact (Option.some.inj read).symm

theorem mem_entries_iff {listings : List Listing} {entry : Entry} :
    entry ∈ entries listings ↔ ofEntry entry ∈ listings := by
  rw [entries, List.mem_filterMap]
  constructor
  · rintro ⟨listing, mem, read⟩
    rwa [← eq_ofEntry_of_ofListing? read]
  · intro mem
    exact ⟨ofEntry entry, mem, ofListing?_ofEntry entry⟩

end Listing

/-! ### Exact look-ups -/

/-- A look-up that gives a text exactly if there is an entry with the name and this text, and
nothing exactly if no entry has the name. -/
structure Exact (lookup : Bytes → Option Bytes) (has : Entry → Prop) : Prop where
  found : ∀ name characters, lookup name = some characters ↔ has ⟨name, characters⟩
  missed : ∀ name, lookup name = none ↔ ∀ characters, ¬ has ⟨name, characters⟩

theorem exact_find? {table : Array Entry} {has : Entry → Prop}
    (h : ∀ name entry, search table (fun entry => compare entry.name name) = some entry ↔
      has entry ∧ entry.name = name) : Exact (find? table) has := by
  have found : ∀ name characters, find? table name = some characters ↔ has ⟨name, characters⟩ := by
    intro name characters
    rw [find?, Option.map_eq_some_iff]
    constructor
    · rintro ⟨entry, result, rfl⟩
      obtain ⟨inside, rfl⟩ := (h name entry).1 result
      exact inside
    · intro inside
      exact ⟨⟨name, characters⟩, (h _ _).2 ⟨inside, rfl⟩, rfl⟩
  refine ⟨found, fun name => ?_⟩
  rw [Option.eq_none_iff_forall_ne_some]
  exact forall_congr' fun characters => not_congr (found name characters)

theorem exact_find?_index {listings : List Listing}
    (keyed : KeyedBy Entry.name (Listing.entries listings)) :
    Exact (find? (index listings)) fun entry => Listing.ofEntry entry ∈ listings := by
  refine exact_find? fun name entry => ?_
  rw [index, search_indexBy_eq_some_iff keyed, Listing.mem_entries_iff]

theorem mem_entries_iff {entry : Entry} :
    entry ∈ entries ↔ ∃ row ∈ rows, Entry.ofRow row = entry := by
  rw [entries, List.mem_toArray, List.mem_map]

theorem exact_lookup? : Exact lookup? fun entry => ∃ row ∈ rows, Entry.ofRow row = entry := by
  refine exact_find? fun name entry => ?_
  rw [search_eq_some_iff ascending_entries, mem_entries_iff]

theorem index_eq_entries {listings : List Listing}
    (lists : ∀ entry, Listing.ofEntry entry ∈ listings ↔ ∃ row ∈ rows, Entry.ofRow row = entry) :
    index listings = entries := by
  refine indexBy_eq ascending_entries fun entry => ?_
  rw [Listing.mem_entries_iff, lists, mem_entries_iff]

/-- The look-up is exact for the rows of the table. It is the look-up in the table of every list
that has the references of these rows, in whatever order and number, with whatever else lacks a
semicolon; and the look-up in the table of any list at all is exact for that list, if no name in it
has two meanings. -/
theorem lookup?_exact :
    Exact lookup? (fun entry => ∃ row ∈ rows, Entry.ofRow row = entry) ∧
    (∀ listings : List Listing,
      (∀ entry, Listing.ofEntry entry ∈ listings ↔ ∃ row ∈ rows, Entry.ofRow row = entry) →
        find? (index listings) = lookup?) ∧
    ∀ listings : List Listing, KeyedBy Entry.name (Listing.entries listings) →
      Exact (find? (index listings)) fun entry => Listing.ofEntry entry ∈ listings := by
  refine ⟨exact_lookup?, fun listings lists => ?_, fun listings => exact_find?_index⟩
  rw [index_eq_entries lists]
  rfl

/-- Names of which one is the front of another or has another case, out of order, one of them listed
twice and once more without its semicolon; and the rows of the table backwards. -/
theorem lookup?_exact_prefixes :
    let listings : List Listing := [
      ⟨utf8 "&ltcc;", utf8 "⪦"⟩, ⟨utf8 "&lt", utf8 "<"⟩, ⟨utf8 "&Lt;", utf8 "≪"⟩,
      ⟨utf8 "&lt;", utf8 "<"⟩, ⟨utf8 "&lt;", utf8 "<"⟩]
    KeyedBy Entry.name (Listing.entries listings) ∧
      find? (index listings) (utf8 "lt") = some (utf8 "<") ∧
      find? (index listings) (utf8 "Lt") = some (utf8 "≪") ∧
      find? (index listings) (utf8 "ltc") = none ∧
      find? (index ((rows.reverse.map Entry.ofRow).map Listing.ofEntry)) = lookup? ∧
      lookup? (utf8 "Lt") = some (utf8 "≪") := by
  intro listings
  obtain ⟨table, same, made⟩ := lookup?_exact
  have keyed : KeyedBy Entry.name (Listing.entries listings) := by decide
  have exact := made listings keyed
  have absent : ∀ listing ∈ listings, listing.reference ≠ utf8 "&ltc;" := by decide
  have row : ("Lt", [0x226A]) ∈ rows := by
    have capital : ("Lt", [0x226A]) ∈ capitalL := by decide
    unfold rows
    simp only [List.mem_append, capital, true_or, or_true]
  refine ⟨keyed, (exact.found _ _).2 (by decide), (exact.found _ _).2 (by decide), ?_,
    same _ fun entry => ?_, (table.found _ _).2 ⟨_, row, rfl⟩⟩
  · exact (exact.missed _).2 fun characters mem => absent _ mem rfl
  · rw [List.mem_map_of_injective Listing.ofEntry_injective, List.mem_map]
    simp only [List.mem_reverse]

end MarkupText.Reference.Names
