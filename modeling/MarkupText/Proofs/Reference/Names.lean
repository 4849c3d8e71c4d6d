import MarkupText.Index
import MarkupText.Reference.Basic

/-!
# The names of the table

The names of the table ascend strictly in the order of their bytes, so the look-up finds every one
of them (`lookup?_of_mem`), and nothing but what some row says (`mem_of_lookup?`). What all rows
have in common is checked row by row (`sound_of_mem`).
-/

set_option autoImplicit false

namespace MarkupText.Reference.Names

/-! ### Names that are found -/

/-- Whether each entry has a lesser name than the next one. -/
def ascends : List Entry → Bool
  | first :: second :: rest =>
    compare first.name second.name = .lt && ascends (second :: rest)
  | _ => true

theorem isChain_of_ascends {list : List Entry} (h : ascends list) :
    list.IsChain fun a b => compare a.name b.name = .lt := by
  fun_induction ascends list with
  | case1 first second rest ih =>
    rw [Bool.and_eq_true, decide_eq_true_eq] at h
    exact .cons_cons h.1 (ih h.2)
  | case2 list short =>
    match list with
    | [] => exact .nil
    | [entry] => exact .singleton entry
    | first :: second :: rest => exact absurd rfl (short first second rest)

theorem ascends_entries : ascends (rows.map Entry.ofRow) := by
  -- nested to the right, so that the next entry is always at the front
  unfold rows
  simp only [List.append_assoc]
  decide +kernel

theorem ascending_entries : Ascending Entry.name entries :=
  ascending_of_isChain (isChain_of_ascends ascends_entries)

/-- A name in the table is found with the text that its row gives it. -/
theorem lookup?_of_mem {name : String} {numbers : List Nat} (h : (name, numbers) ∈ rows) :
    lookup? (utf8 name) = some (Utf8.encodeAll (numbers.map Char.ofNat)) := by
  have mem : Entry.ofRow (name, numbers) ∈ entries :=
    List.mem_toArray.2 (List.mem_map.2 ⟨_, h, rfl⟩)
  have found := (search_eq_some_iff ascending_entries).2 ⟨mem, rfl⟩
  exact congrArg (Option.map Entry.characters) found

/-! ### What rows have in common -/

/-- What holds of a name and the text that it stands for. What begins with ASCII is shorter than
the reference, with its ampersand and its semicolon. -/
structure Sound (name characters : Bytes) : Prop where
  nonempty : name ≠ []
  alphanumeric : ∀ b ∈ name, b.isAlphanumeric
  stands : characters ≠ []
  shorter : ∀ b ∈ characters.head?, b.isAscii → characters.length < name.length + 2

theorem all_head?_iff {characters : Bytes} {size : Nat} :
    characters.head?.all (fun b => !b.isAscii || characters.length < size) ↔
      ∀ b ∈ characters.head?, b.isAscii → characters.length < size := by
  cases characters with
  | nil => simp
  | cons b rest => by_cases ascii : b.isAscii <;> simp [ascii]

-- by Boolean checks, which run over the bytes of one text and not over all bytes
instance (name characters : Bytes) : Decidable (Sound name characters) :=
  decidable_of_iff
    (name ≠ [] ∧ name.all Byte.isAlphanumeric ∧ characters ≠ [] ∧
      characters.head?.all fun b => !b.isAscii || characters.length < name.length + 2)
    ⟨fun ⟨nonempty, alphanumeric, stands, shorter⟩ =>
      ⟨nonempty, List.all_eq_true.1 alphanumeric, stands, all_head?_iff.1 shorter⟩,
      fun h => ⟨h.nonempty, List.all_eq_true.2 h.alphanumeric, h.stands,
        all_head?_iff.2 h.shorter⟩⟩

theorem rows_sound : ∀ row ∈ rows,
    Sound (utf8 row.1) (Utf8.encodeAll (row.2.map Char.ofNat)) := by
  -- nested to the right, so that the next row is always at the front
  unfold rows
  simp only [List.append_assoc]
  decide +kernel

theorem sound_of_mem {name : String} {numbers : List Nat} (h : (name, numbers) ∈ rows) :
    Sound (utf8 name) (Utf8.encodeAll (numbers.map Char.ofNat)) := rows_sound _ h

/-- What is found is what some row says. -/
theorem mem_of_lookup? {name characters : Bytes} (h : lookup? name = some characters) :
    ∃ text numbers, (text, numbers) ∈ rows ∧ utf8 text = name ∧
      Utf8.encodeAll (numbers.map Char.ofNat) = characters := by
  obtain ⟨entry, found, rfl⟩ := Option.map_eq_some_iff.1 h
  obtain ⟨mem, rfl⟩ := searchBetween_sound found
  obtain ⟨⟨text, numbers⟩, row, rfl⟩ := List.mem_map.1 (List.mem_toArray.1 mem)
  exact ⟨text, numbers, row, rfl, rfl⟩

end MarkupText.Reference.Names
