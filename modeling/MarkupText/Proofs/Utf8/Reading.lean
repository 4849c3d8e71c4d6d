import MarkupText.Proofs.Utf8.Front
import MarkupText.Proofs.Utf8.WellFormed

/-!
# Taking a text apart

What was read as a character is how that character is written (`front_sound`). So every text is
taken apart from character to character, with bytes in between that are none (`text_induction`), and
such bytes stay what they are when the text behind them changes but begins alike (`IsBroken.congr`).
-/

set_option autoImplicit false

namespace MarkupText.Utf8

/-! ### Characters by their parts -/

/-- The bytes of the character with a number. -/
theorem encode_ofNat {v : Nat} (valid : v.isValidChar) :
    encode (Char.ofNat v) =
      if v ≤ 0x7F then [UInt8.ofNat v]
      else if v ≤ 0x7FF then [UInt8.ofNat (v / 64 % 32 + 192), UInt8.ofNat (v % 64 + 128)]
      else if v ≤ 0xFFFF then
        [UInt8.ofNat (v / 4096 % 16 + 224), UInt8.ofNat (v / 64 % 64 + 128),
          UInt8.ofNat (v % 64 + 128)]
      else
        [UInt8.ofNat (v / 262144 % 8 + 240), UInt8.ofNat (v / 4096 % 64 + 128),
          UInt8.ofNat (v / 64 % 64 + 128), UInt8.ofNat (v % 64 + 128)] := by
  have number : (Char.ofNat v).val.toNat = v := toNat_charOfNat valid
  unfold encode String.utf8EncodeChar
  simp only [number]

/-- Two bytes that are not overlong. -/
theorem encode_two {high low : Nat} (overlong : 2 ≤ high) (hhigh : high < 32) (hlow : low < 64) :
    encode (Char.ofNat (high * 64 + low)) =
      [UInt8.ofNat (high + 192), UInt8.ofNat (low + 128)] := by
  rw [encode_ofNat (.inl (by omega)), if_neg (by omega), if_pos (by omega),
    show (high * 64 + low) / 64 % 32 = high by omega, show (high * 64 + low) % 64 = low by omega]

/-- Three bytes that are neither overlong nor a surrogate. -/
theorem encode_three {high middle low : Nat} (hhigh : high < 16) (hmiddle : middle < 64)
    (hlow : low < 64) (overlong : high = 0 → 32 ≤ middle) (surrogate : high = 13 → middle < 32) :
    encode (Char.ofNat ((high * 64 + middle) * 64 + low)) =
      [UInt8.ofNat (high + 224), UInt8.ofNat (middle + 128), UInt8.ofNat (low + 128)] := by
  generalize same : (high * 64 + middle) * 64 + low = v
  have valid : v.isValidChar := by
    unfold Nat.isValidChar
    omega
  rw [encode_ofNat valid, if_neg (by omega), if_neg (by omega), if_pos (by omega),
    show v / 4096 % 16 = high by omega, show v / 64 % 64 = middle by omega,
    show v % 64 = low by omega]

/-- Four bytes that are neither overlong nor too large. -/
theorem encode_four {high middle third low : Nat} (hhigh : high < 5) (hmiddle : middle < 64)
    (hthird : third < 64) (hlow : low < 64) (overlong : high = 0 → 16 ≤ middle)
    (large : high = 4 → middle < 16) :
    encode (Char.ofNat (((high * 64 + middle) * 64 + third) * 64 + low)) =
      [UInt8.ofNat (high + 240), UInt8.ofNat (middle + 128), UInt8.ofNat (third + 128),
        UInt8.ofNat (low + 128)] := by
  generalize same : ((high * 64 + middle) * 64 + third) * 64 + low = v
  have valid : v.isValidChar := .inr ⟨by omega, by omega⟩
  rw [encode_ofNat valid, if_neg (by omega), if_neg (by omega), if_neg (by omega),
    show v / 262144 % 8 = high by omega, show v / 4096 % 64 = middle by omega,
    show v / 64 % 64 = third by omega, show v % 64 = low by omega]

/-! ### What was read -/

/-- A byte that was read brings six bits and lies in its range. -/
theorem follow_cons {number size count : Nat} {first last : Byte} {ranges : List (Byte × Byte)}
    {rest : Bytes} {c : Char} (low : 128 ≤ first.toNat) (high : last.toNat ≤ 191)
    (h : follow number size ((first, last) :: ranges) rest = .character c count) :
    ∃ m behind, rest = UInt8.ofNat (m + 128) :: behind ∧ m < 64 ∧ first.toNat ≤ m + 128 ∧
      m + 128 ≤ last.toNat ∧
      follow (number * 64 + m) (size + 1) ranges behind = .character c count := by
  cases rest with
  | nil => cases h
  | cons b behind =>
    rw [follow] at h
    split_ifs at h with inside
    rw [Byte.within_iff] at inside
    refine ⟨b.toNat % 64, behind, ?_, Nat.mod_lt _ (by decide), by omega, by omega, h⟩
    rw [show b.toNat % 64 + 128 = b.toNat by omega, UInt8.ofNat_toNat]

/-- What a lead byte and the bytes behind it were read as is how it is written. -/
def WrittenAs (b : Byte) (rest : Bytes) (c : Char) (size : Nat) : Prop :=
  ∃ following behind, rest = following ++ behind ∧ encode c = b :: following ∧
    size = following.length + 1

theorem follow_two {high size : Nat} {rest : Bytes} {c : Char} (overlong : 2 ≤ high)
    (hhigh : high < 32) (h : follow high 1 [anyContinuation] rest = .character c size) :
    WrittenAs (UInt8.ofNat (high + 192)) rest c size := by
  obtain ⟨low, behind, rfl, hlow, -, -, done⟩ := follow_cons (by decide) (by decide) h
  rw [follow] at done
  cases done
  exact ⟨[UInt8.ofNat (low + 128)], behind, rfl, encode_two overlong hhigh hlow, rfl⟩

theorem follow_three {high size : Nat} {first last : Byte} {rest : Bytes} {c : Char}
    (hhigh : high < 16) (hfirst : 128 ≤ first.toNat) (hlast : last.toNat ≤ 191)
    (overlong : high = 0 → 160 ≤ first.toNat) (surrogate : high = 13 → last.toNat ≤ 159)
    (h : follow high 1 [(first, last), anyContinuation] rest = .character c size) :
    WrittenAs (UInt8.ofNat (high + 224)) rest c size := by
  obtain ⟨middle, behind, rfl, hmiddle, above, below, h⟩ := follow_cons hfirst hlast h
  obtain ⟨low, behind, rfl, hlow, -, -, done⟩ := follow_cons (by decide) (by decide) h
  rw [follow] at done
  cases done
  refine ⟨[UInt8.ofNat (middle + 128), UInt8.ofNat (low + 128)], behind, rfl, ?_, rfl⟩
  exact encode_three hhigh hmiddle hlow (by omega) (by omega)

theorem follow_four {high size : Nat} {first last : Byte} {rest : Bytes} {c : Char}
    (hhigh : high < 5) (hfirst : 128 ≤ first.toNat) (hlast : last.toNat ≤ 191)
    (overlong : high = 0 → 144 ≤ first.toNat) (large : high = 4 → last.toNat ≤ 143)
    (h : follow high 1 [(first, last), anyContinuation, anyContinuation] rest =
      .character c size) :
    WrittenAs (UInt8.ofNat (high + 240)) rest c size := by
  obtain ⟨middle, behind, rfl, hmiddle, above, below, h⟩ := follow_cons hfirst hlast h
  obtain ⟨third, behind, rfl, hthird, -, -, h⟩ := follow_cons (by decide) (by decide) h
  obtain ⟨low, behind, rfl, hlow, -, -, done⟩ := follow_cons (by decide) (by decide) h
  rw [follow] at done
  cases done
  refine ⟨[UInt8.ofNat (middle + 128), UInt8.ofNat (third + 128), UInt8.ofNat (low + 128)],
    behind, rfl, ?_, rfl⟩
  exact encode_four hhigh hmiddle hthird hlow (by omega) (by omega)

/-- What was read as a character is how the character is written. -/
theorem front_sound {b : Byte} {rest : Bytes} {c : Char} {size : Nat}
    (h : front b rest = .character c size) : WrittenAs b rest c size := by
  have bound := b.toNat_lt
  rw [front, ← UInt8.ofNat_toNat (x := b), lead_ofNat bound] at h
  rw [← UInt8.ofNat_toNat (x := b)]
  generalize b.toNat = n at *
  split_ifs at h with one two e0 ed three f0 f4 four
  all_goals simp only at h
  · rw [follow] at h
    cases h
    refine ⟨[], rest, rfl, ?_, rfl⟩
    rw [encode_ofNat (.inl (by omega)), if_pos one]
  · have written := follow_two (by omega) (by omega) h
    rwa [Nat.sub_add_cancel (by omega)] at written
  · subst e0
    exact follow_three (by decide) (by decide) (by decide) (by decide) (by decide) h
  · subst ed
    exact follow_three (by decide) (by decide) (by decide) (by decide) (by decide) h
  · have written := follow_three (by omega) (by decide) (by decide) (by omega) (by omega) h
    rwa [Nat.sub_add_cancel (by omega)] at written
  · subst f0
    exact follow_four (by decide) (by decide) (by decide) (by decide) (by decide) h
  · subst f4
    exact follow_four (by decide) (by decide) (by decide) (by decide) (by decide) h
  · have written := follow_four (by omega) (by decide) (by decide) (by omega) (by omega) h
    rwa [Nat.sub_add_cancel (by omega)] at written

/-- What stands at the front of a text is the character that is read there. -/
theorem character?_eq_some_iff {text : Bytes} {c : Char} :
    character? text = some c ↔ encode c <+: text := by
  constructor
  · intro read
    cases text with
    | nil => cases read
    | cons b rest =>
      simp only [character?] at read
      split at read
      · next found =>
        cases read
        obtain ⟨following, behind, rfl, encoded, -⟩ := front_sound found
        exact ⟨behind, by rw [encoded, List.cons_append]⟩
      · cases read
  · rintro ⟨behind, rfl⟩
    obtain ⟨lead, following, encoded, -⟩ := encode_eq c
    rw [encoded, List.cons_append, character?, front_encode encoded]

/-! ### From character to character -/

/-- A byte with those behind it that were read, where reading them finds no character. -/
structure IsBroken (b : Byte) (read rest : Bytes) : Prop where
  front : front b (read ++ rest) = .broken (read.length + 1)
  continues : ∀ c ∈ read, c.isContinuation

theorem IsBroken.not_isAscii {b : Byte} {read rest : Bytes} (h : IsBroken b read rest) :
    ¬ b.isAscii := by
  intro ascii
  have found := front_encode (encode_of_isAscii ascii) (read ++ rest)
  rw [List.nil_append, h.front] at found
  cases found

/-- What goes wrong before a text goes wrong before any other one that begins alike. -/
theorem IsBroken.congr {b : Byte} {read rest other : Bytes} (h : IsBroken b read rest)
    (alike : BeginAlike rest other) : IsBroken b read other := by
  refine ⟨?_, h.continues⟩
  rw [front_congr b alike read, h.front]
  rw [h.front]
  exact Nat.le_refl _

/-- A text that is not empty begins with a character, or with bytes that are none. -/
@[elab_as_elim]
theorem text_induction {motive : Bytes → Prop} (text : Bytes) (nil : motive [])
    (character : ∀ c rest, motive rest → motive (encode c ++ rest))
    (broken : ∀ b read rest, IsBroken b read rest → motive rest → motive (b :: (read ++ rest))) :
    motive text := by
  induction size : text.length using Nat.strongRecOn generalizing text with
  | ind n ih =>
    cases text with
    | nil => exact nil
    | cons b text =>
      rw [List.length_cons] at size
      cases found : front b text with
      | character c count =>
        obtain ⟨following, rest, rfl, encoded, -⟩ := front_sound found
        rw [List.length_append] at size
        rw [← List.cons_append, ← encoded]
        exact character c rest (ih _ (by omega) rest rfl)
      | broken count =>
        obtain ⟨read, rest, rfl, same, continues⟩ := front_size b text
        rw [List.length_append] at size
        rw [found] at same
        subst same
        exact broken b read rest ⟨found, continues⟩ (ih _ (by omega) rest rfl)

end MarkupText.Utf8
