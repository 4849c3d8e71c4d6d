import Mathlib.Data.FinEnum
import Mathlib.Data.Nat.Bitwise
import MarkupText.Fold.Basic
import MarkupText.Index
import MarkupText.Proofs.Utf8.WellFormed

/-!
# The rows of the folding table

The rows ascend, so looking up a character gives what its row says (`folding?_eq_some_iff`). What
they have in common is read off by one evaluation for each fact: a character folds to something
else that is not white space (`folding?_sound`) and does not fold any further
(`folding?_of_mem_foldChar`), and in ASCII the capital letters fold, to the small ones
(`folding?_of_isAscii`).
-/

set_option autoImplicit false

namespace MarkupText.Fold

/-! ### Looking up -/

theorem isChain_rows : rows.IsChain fun a b => compare a.1 b.1 = .lt := by
  -- nested to the right, so that the next row is always at the front
  unfold rows
  simp only [List.append_assoc]
  decide +kernel

theorem ascending_table : Ascending Prod.fst table := ascending_of_isChain isChain_rows

/-- What a character folds to is what its row says. -/
theorem folding?_eq_some_iff {c : Char} {folded : List Char} :
    folding? c = some folded ↔
      ∃ row ∈ rows, row.1 = c.toNat ∧ row.2.map Char.ofNat = folded := by
  rw [folding?, Option.map_eq_some_iff]
  constructor
  · rintro ⟨row, found, folds⟩
    obtain ⟨mem, key⟩ := (search_eq_some_iff ascending_table).1 found
    exact ⟨row, List.mem_toArray.1 mem, key, folds⟩
  · rintro ⟨row, mem, key, folds⟩
    exact ⟨row, (search_eq_some_iff ascending_table).2 ⟨List.mem_toArray.2 mem, key⟩, folds⟩

/-- A character folds to what its row says, and to itself where it has none. -/
theorem foldChar_eq (c : Char) :
    (∃ row ∈ rows, row.1 = c.toNat ∧ foldChar c = row.2.map Char.ofNat) ∨
      (∀ row ∈ rows, row.1 ≠ c.toNat) ∧ foldChar c = [c] := by
  cases known : folding? c with
  | none =>
    refine .inr ⟨fun row mem key => ?_, by rw [foldChar, known, Option.getD_none]⟩
    cases known.symm.trans (folding?_eq_some_iff.2 ⟨row, mem, key, rfl⟩)
  | some folded =>
    obtain ⟨row, mem, key, rfl⟩ := folding?_eq_some_iff.1 known
    exact .inl ⟨row, mem, key, by rw [foldChar, known, Option.getD_some]⟩

/-! ### What the rows have in common -/

/-- A character and what it folds to: something else, and nothing that is white space. -/
structure Sound (c : Char) (folded : List Char) : Prop where
  nonempty : folded ≠ []
  head_ne : folded.head? ≠ some c
  ink : ∀ d ∈ folded, 0x20 < d.toNat

theorem rows_sound : ∀ row ∈ rows, row.2 ≠ [] ∧
    (row.2.map Char.ofNat).head?.map Char.toNat ≠ some row.1 ∧
      ∀ number ∈ row.2, 0x20 < (Char.ofNat number).toNat := by
  unfold rows
  decide +kernel

theorem folding?_sound {c : Char} {folded : List Char} (h : folding? c = some folded) :
    Sound c folded := by
  obtain ⟨row, mem, key, rfl⟩ := folding?_eq_some_iff.1 h
  obtain ⟨nonempty, head_ne, ink⟩ := rows_sound row mem
  refine ⟨fun none => nonempty (List.map_eq_nil_iff.1 none), fun same => head_ne ?_,
    List.forall_mem_map.2 ink⟩
  rw [same, key]
  rfl

/-- A number with a bit for each number of a list. -/
def bitsOf (numbers : List Nat) : Nat := numbers.foldr (fun number bits => bits ||| 2 ^ number) 0

theorem testBit_bitsOf {numbers : List Nat} {number : Nat} :
    (bitsOf numbers).testBit number ↔ number ∈ numbers := by
  induction numbers with
  | nil => simp [bitsOf]
  | cons first numbers ih =>
    rw [bitsOf, List.foldr_cons, Nat.testBit_or, Nat.testBit_two_pow, Bool.or_eq_true, ← bitsOf, ih,
      decide_eq_true_eq, List.mem_cons, or_comm, eq_comm]

theorem rows_closed : ∀ row ∈ rows, ∀ number ∈ row.2,
    (bitsOf (rows.map Prod.fst)).testBit (Char.ofNat number).toNat = false := by
  unfold rows
  decide +kernel

/-- What a character folds to does not fold any further. -/
theorem folding?_of_mem_foldChar {c d : Char} (mem : d ∈ foldChar c) : folding? d = none := by
  rw [Option.eq_none_iff_forall_ne_some]
  intro folded known
  obtain ⟨row, inRows, key, -⟩ := folding?_eq_some_iff.1 known
  rcases foldChar_eq c with ⟨origin, inRows', -, folds⟩ | ⟨none, folds⟩
  · rw [folds] at mem
    obtain ⟨number, inside, rfl⟩ := List.mem_map.1 mem
    have closed := rows_closed origin inRows' number inside
    rw [testBit_bitsOf.2 (List.mem_map.2 ⟨row, inRows, key⟩)] at closed
    cases closed
  · rw [folds, List.mem_singleton] at mem
    exact none row inRows (mem ▸ key)

theorem folding?_of_isAscii {b : Byte} (ascii : b.isAscii) :
    folding? (Char.ofNat b.toNat) =
      if b.isUpper then some [Char.ofNat b.toLower.toNat] else none := by
  revert b
  decide +kernel

end MarkupText.Fold
