import Mathlib.Tactic.SplitIfs
import MarkupText.Utf8
import MarkupText.Proofs.Byte

/-!
# The shape of an encoded character

A lead byte that announces how long the sequence is, and continuation bytes up to that length.
-/

set_option autoImplicit false

namespace MarkupText.Utf8

theorem toNat_ofNat_of_lt {n : Nat} (h : n < 256) : (UInt8.ofNat n).toNat = n := by
  rw [UInt8.toNat_ofNat', Nat.mod_eq_of_lt h]

/-- Six bits with the mark of a continuation byte. -/
theorem isContinuation_ofNat (n : Nat) : Byte.isContinuation (UInt8.ofNat (n % 64 + 128)) := by
  have bound := Nat.mod_lt n (show 0 < 64 by decide)
  rw [Byte.isContinuation, Byte.within_iff, toNat_ofNat_of_lt (by omega)]
  simp only [UInt8.reduceToNat]
  omega

/-- The length that a lead byte announces, by its number. -/
theorem sequenceLength_ofNat {n : Nat} (h : n < 256) :
    Byte.sequenceLength? (UInt8.ofNat n) =
      if n ≤ 0x7F then some 1
      else if 0xC2 ≤ n ∧ n ≤ 0xDF then some 2
      else if 0xE0 ≤ n ∧ n ≤ 0xEF then some 3
      else if 0xF0 ≤ n ∧ n ≤ 0xF7 then some 4
      else none := by
  simp only [Byte.sequenceLength?, Byte.within_iff, UInt8.le_iff_toNat_le, toNat_ofNat_of_lt h,
    UInt8.reduceToNat]

theorem sequenceLength_of_isContinuation {b : Byte} (h : b.isContinuation) :
    b.sequenceLength? = none := by
  rw [Byte.isContinuation, Byte.within_iff] at h
  simp only [UInt8.reduceToNat] at h
  rw [← UInt8.ofNat_toNat (x := b), sequenceLength_ofNat (by omega), if_neg (by omega),
    if_neg (by omega), if_neg (by omega), if_neg (by omega)]

/-- A character is as long as its lead byte says, and no byte behind that one leads. -/
theorem encode_eq (c : Char) :
    ∃ lead following, encode c = lead :: following ∧
      lead.sequenceLength? = some (following.length + 1) ∧ ∀ b ∈ following, b.isContinuation := by
  have bound : c.val.toNat < 0x110000 := by
    rcases c.valid with h | h <;> omega
  unfold encode String.utf8EncodeChar
  simp only
  split_ifs with one two three
  · refine ⟨_, [], rfl, (sequenceLength_ofNat (by omega)).trans ?_, by simp⟩
    rw [if_pos one]
    rfl
  · refine ⟨_, [_], rfl, (sequenceLength_ofNat (by omega)).trans ?_, ?_⟩
    · rw [if_neg (by omega), if_pos (by omega)]
      rfl
    · simp [isContinuation_ofNat, -UInt8.ofNat_add]
  · refine ⟨_, [_, _], rfl, (sequenceLength_ofNat (by omega)).trans ?_, ?_⟩
    · rw [if_neg (by omega), if_neg (by omega), if_pos (by omega)]
      rfl
    · simp [isContinuation_ofNat, -UInt8.ofNat_add]
  · refine ⟨_, [_, _, _], rfl, (sequenceLength_ofNat (by omega)).trans ?_, ?_⟩
    · rw [if_neg (by omega), if_neg (by omega), if_neg (by omega), if_pos (by omega)]
      rfl
    · simp [isContinuation_ofNat, -UInt8.ofNat_add]

/-- No character takes up more than four bytes. -/
theorem length_encode_le (c : Char) : (encode c).length ≤ 4 := by
  rw [encode, String.length_utf8EncodeChar]
  exact c.utf8Size_le_four

end MarkupText.Utf8
