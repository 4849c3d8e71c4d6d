import Mathlib.Data.Nat.Bitwise
import MarkupText.Filter.Basic

/-!
# What a mask knows

A mask has a byte at an index if some member that it noted has it there (`Mask.has_note`), and it
admits what it has byte for byte (`Mask.admits_iff`).
-/

set_option autoImplicit false

namespace MarkupText.Filter

theorem toNat_bit {index : Nat} (h : index < maxPrefixThreshold) :
    (bit index).toNat = 2 ^ index := by
  have all : ∀ i < maxPrefixThreshold, (bit i).toNat = 2 ^ i := by decide
  exact all index h

/-- The bit of an index, picked out of a byte. -/
theorem and_bit_ne_zero_iff {index : Nat} (h : index < maxPrefixThreshold) (bits : UInt8) :
    bits &&& bit index ≠ 0 ↔ bits.toNat.testBit index := by
  rw [Ne, ← UInt8.toNat_inj, UInt8.toNat_and, toNat_bit h, Nat.and_two_pow]
  cases bits.toNat.testBit index <;> simp

/-- Each index has a bit of its own. -/
theorem or_bit_and_bit_ne_zero_iff {index other : Nat} (h : index < maxPrefixThreshold)
    (hother : other < maxPrefixThreshold) (bits : UInt8) :
    (bits ||| bit index) &&& bit other ≠ 0 ↔ bits &&& bit other ≠ 0 ∨ index = other := by
  rw [and_bit_ne_zero_iff hother, and_bit_ne_zero_iff hother, UInt8.toNat_or, toNat_bit h,
    Nat.testBit_or, Nat.testBit_two_pow, Bool.or_eq_true, decide_eq_true_eq]

/-- Whether a mask has a byte at an index. -/
def Mask.Has (mask : Mask) (b : Byte) (index : Nat) : Prop := mask.get b.toFin &&& bit index ≠ 0

theorem Mask.has_set {mask : Mask} {c : Byte} {index other : Nat}
    (h : index < maxPrefixThreshold) (hother : other < maxPrefixThreshold) (b : Byte) :
    Mask.Has (mask.set c.toFin (mask.get c.toFin ||| bit index) c.toFin.isLt) b other ↔
      mask.Has b other ∨ b = c ∧ index = other := by
  have bound := b.toFin.isLt
  have read : ∀ m : Mask, m.get b.toFin = m[b.toFin.val] := fun _ => rfl
  rw [Mask.Has, read, Vector.getElem_set]
  split_ifs with same
  · have eq : b = c := UInt8.toFin_inj.1 (Fin.ext same.symm)
    subst eq
    rw [or_bit_and_bit_ne_zero_iff h hother]
    simp only [Mask.Has, true_and]
  · have ne : b ≠ c := by
      rintro rfl
      exact same rfl
    simp only [Mask.Has, read, ne, false_and, or_false]

/-- Noting a member adds its bytes at their indices and nothing else. -/
theorem Mask.has_note {item : Bytes} {index other : Nat}
    (h : index + item.length ≤ maxPrefixThreshold) (hother : other < maxPrefixThreshold)
    (mask : Mask) (b : Byte) :
    (mask.note index item).Has b other ↔
      mask.Has b other ∨ ∃ i, item[i]? = some b ∧ index + i = other := by
  induction item generalizing mask index with
  | nil => simp [Mask.note]
  | cons c rest ih =>
    rw [List.length_cons] at h
    rw [Mask.note, ih (by omega), Mask.has_set (by omega) hother, or_assoc]
    apply or_congr_right
    constructor
    · rintro (⟨rfl, here⟩ | ⟨i, read, there⟩)
      · exact ⟨0, rfl, here⟩
      · exact ⟨i + 1, read, by omega⟩
    · rintro ⟨_ | i, read, there⟩
      · cases read
        exact .inl ⟨rfl, there⟩
      · exact .inr ⟨i, read, by omega⟩

/-- A mask admits a byte string if it has every byte of it where it stands. -/
theorem Mask.admits_iff {mask : Mask} {item : Bytes} {index : Nat} :
    mask.admits index item ↔ ∀ i b, item[i]? = some b → mask.Has b (index + i) := by
  induction item generalizing index with
  | nil => simp [Mask.admits]
  | cons c rest ih =>
    rw [Mask.admits, Bool.and_eq_true, decide_eq_true_eq, ih]
    constructor
    · rintro ⟨here, there⟩ (_ | i) b read
      · cases read
        exact here
      · rw [← Nat.succ_add_eq_add_succ]
        exact there i b read
    · intro all
      refine ⟨all 0 c rfl, fun i b read => ?_⟩
      rw [Nat.succ_add_eq_add_succ]
      exact all (i + 1) b read

end MarkupText.Filter
