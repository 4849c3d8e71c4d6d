import MarkupText.Byte

/-!
# Classes of bytes

The classes that the scanners test are made of ranges of bytes and of lists of marks. A range whose
last byte is ASCII lies within ASCII (`isAscii_of_within`), and so do the classes, while what is no
ASCII has no case and leads no sequence of one byte.
-/

set_option autoImplicit false

namespace MarkupText.Byte

variable {b : Byte}

theorem within_iff {first last : Byte} :
    within first last b ↔ first.toNat ≤ b.toNat ∧ b.toNat ≤ last.toNat := by
  simp only [within, Bool.and_eq_true, decide_eq_true_eq, UInt8.le_iff_toNat_le]

/-! ### ASCII -/

theorem isAscii_iff : b.isAscii ↔ b.toNat < 0x80 := by
  simp only [isAscii, decide_eq_true_eq, UInt8.lt_iff_toNat_lt, UInt8.reduceToNat]

theorem isAscii_of_within {first last : Byte} (h : within first last b) (top : last.isAscii) :
    b.isAscii :=
  isAscii_iff.2 (Nat.lt_of_le_of_lt (within_iff.1 h).2 (isAscii_iff.1 top))

theorem isAscii_of_contains {marks : Bytes} (h : marks.contains b) (ascii : marks.all isAscii) :
    b.isAscii :=
  List.all_eq_true.1 ascii b (List.contains_iff_mem.1 h)

theorem isAscii_of_isUpper (h : b.isUpper) : b.isAscii := isAscii_of_within h rfl

theorem isAscii_of_isDigit (h : b.isDigit) : b.isAscii := isAscii_of_within h rfl

theorem isAscii_of_isAlphanumeric (h : b.isAlphanumeric) : b.isAscii := by
  simp only [isAlphanumeric, isLetter, Bool.or_eq_true] at h
  rcases h with (capital | small) | digit
  · exact isAscii_of_isUpper capital
  · exact isAscii_of_within small rfl
  · exact isAscii_of_isDigit digit

theorem isAscii_of_isPunctuation (h : b.isPunctuation) : b.isAscii := by
  simp only [isPunctuation, Bool.or_eq_true] at h
  rcases h with ((first | second) | third) | last
  · exact isAscii_of_within first rfl
  · exact isAscii_of_within second rfl
  · exact isAscii_of_within third rfl
  · exact isAscii_of_within last rfl

theorem isAscii_of_isUrlSafe (h : b.isUrlSafe) : b.isAscii := by
  simp only [isUrlSafe, Bool.or_eq_true] at h
  rcases h with alphanumeric | mark
  · exact isAscii_of_isAlphanumeric alphanumeric
  · exact isAscii_of_contains mark rfl

theorem sequenceLength_of_isAscii (h : b.isAscii) : b.sequenceLength? = some 1 :=
  if_pos (UInt8.le_iff_toNat_le.2 (Nat.le_of_lt_succ (isAscii_iff.1 h)))

/-! ### Digits in a URL -/

theorem isAlphanumeric_of_isHexDigit (h : b.isHexDigit) : b.isAlphanumeric := by
  simp only [isHexDigit, isAlphanumeric, isLetter, isUpper, isLower, isDigit, Bool.or_eq_true,
    within_iff, UInt8.reduceToNat] at *
  omega

theorem isAscii_of_isHexDigit (h : b.isHexDigit) : b.isAscii :=
  isAscii_of_isAlphanumeric (isAlphanumeric_of_isHexDigit h)

theorem isUrlSafe_of_isHexDigit (h : b.isHexDigit) : b.isUrlSafe := by
  rw [isUrlSafe, isAlphanumeric_of_isHexDigit h, Bool.true_or]

theorem not_isUrlSafe_percent : ¬ Byte.percent.isUrlSafe := by decide

/-! ### Case -/

theorem isLower_toLower (h : b.isUpper) : b.toLower.isLower := by
  rw [toLower, if_pos h]
  simp only [isUpper, isLower, within_iff, UInt8.toNat_add, UInt8.reduceToNat] at *
  omega

theorem toLower_of_not_isUpper (h : ¬ b.isUpper) : b.toLower = b := if_neg h

theorem not_isUpper_of_isLower (h : b.isLower) : ¬ b.isUpper := by
  simp only [isUpper, isLower, within_iff, UInt8.reduceToNat] at *
  omega

theorem toLower_toLower (b : Byte) : b.toLower.toLower = b.toLower := by
  by_cases upper : b.isUpper
  · exact toLower_of_not_isUpper (not_isUpper_of_isLower (isLower_toLower upper))
  · rw [toLower_of_not_isUpper upper, toLower_of_not_isUpper upper]

theorem isAscii_toLower (ascii : b.isAscii) : b.toLower.isAscii := by
  by_cases upper : b.isUpper
  · exact isAscii_of_within (isLower_toLower upper) rfl
  · rwa [toLower_of_not_isUpper upper]

theorem toLower_of_not_isAscii (high : ¬ b.isAscii) : b.toLower = b :=
  toLower_of_not_isUpper (mt isAscii_of_isUpper high)

end MarkupText.Byte
