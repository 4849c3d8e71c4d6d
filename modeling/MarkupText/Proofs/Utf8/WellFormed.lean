import MarkupText.Proofs.Utf8.Encode

/-!
# Well-formed texts

A character of ASCII is one byte, and every other character has no byte of ASCII in it
(`encode_ascii_or_high`). So a well-formed text can be cut at bytes of ASCII: taking them off either
end leaves a well-formed text (`WellFormed.right_of_ascii`, `WellFormed.left_of_ascii`).
-/

set_option autoImplicit false

namespace MarkupText.Utf8

theorem isAscii_ofNat {n : Nat} (h : n < 256) :
    Byte.isAscii (UInt8.ofNat n) ↔ n < 0x80 := by
  simp only [Byte.isAscii, decide_eq_true_eq, UInt8.lt_iff_toNat_lt, toNat_ofNat_of_lt h,
    UInt8.reduceToNat]

/-- A character of ASCII is the byte with its number, and no byte of another character is ASCII. -/
theorem encode_ascii_or_high (c : Char) :
    (∃ b : Byte, encode c = [b] ∧ b.isAscii ∧ b.toNat = c.toNat) ∨
      (0x80 ≤ c.toNat ∧ ∀ b ∈ encode c, ¬ b.isAscii) := by
  have bound : c.val.toNat < 0x110000 := by
    rcases c.valid with h | h <;> omega
  rw [← Char.toNat_val]
  unfold encode String.utf8EncodeChar
  generalize c.val.toNat = v at *
  simp only
  split_ifs with one two three
  · refine .inl ⟨_, rfl, (isAscii_ofNat (by omega)).2 (by omega), toNat_ofNat_of_lt (by omega)⟩
  · refine .inr ⟨by omega, ?_⟩
    simp only [List.forall_mem_cons]
    rw [isAscii_ofNat (by omega), isAscii_ofNat (by omega)]
    exact ⟨by omega, by omega, by simp⟩
  · refine .inr ⟨by omega, ?_⟩
    simp only [List.forall_mem_cons]
    rw [isAscii_ofNat (by omega), isAscii_ofNat (by omega), isAscii_ofNat (by omega)]
    exact ⟨by omega, by omega, by omega, by simp⟩
  · refine .inr ⟨by omega, ?_⟩
    simp only [List.forall_mem_cons]
    rw [isAscii_ofNat (by omega), isAscii_ofNat (by omega), isAscii_ofNat (by omega),
      isAscii_ofNat (by omega)]
    exact ⟨by omega, by omega, by omega, by omega, by simp⟩

theorem toNat_charOfNat {n : Nat} (h : n.isValidChar) : (Char.ofNat n).toNat = n := by
  rw [Char.ofNat, dif_pos h]
  rfl

/-- A byte of ASCII is a character by itself. -/
theorem encode_of_isAscii {b : Byte} (h : b.isAscii) : encode (Char.ofNat b.toNat) = [b] := by
  simp only [Byte.isAscii, decide_eq_true_eq, UInt8.lt_iff_toNat_lt, UInt8.reduceToNat] at h
  have number : (Char.ofNat b.toNat).toNat = b.toNat := toNat_charOfNat (.inl (by omega))
  rcases encode_ascii_or_high (Char.ofNat b.toNat) with ⟨c, encoded, -, same⟩ | ⟨high, -⟩
  · rw [encoded, UInt8.toNat_inj.1 (same.trans number)]
  · omega

theorem encode_ne_nil (c : Char) : encode c ≠ [] := by
  obtain ⟨lead, following, encoded, -⟩ := encode_eq c
  rw [encoded]
  exact List.cons_ne_nil _ _

@[simp] theorem encodeAll_nil : encodeAll [] = [] := rfl

theorem encodeAll_cons (c : Char) (cs : List Char) :
    encodeAll (c :: cs) = encode c ++ encodeAll cs := List.flatMap_cons

theorem encodeAll_append (cs ds : List Char) :
    encodeAll (cs ++ ds) = encodeAll cs ++ encodeAll ds := List.flatMap_append

theorem wellFormed_encodeAll (cs : List Char) : WellFormed (encodeAll cs) := ⟨cs, rfl⟩

theorem wellFormed_nil : WellFormed [] := ⟨[], rfl⟩

theorem wellFormed_encode (c : Char) : WellFormed (encode c) :=
  ⟨[c], by rw [encodeAll_cons, encodeAll_nil, List.append_nil]⟩

theorem WellFormed.append {front rest : Bytes} (h : WellFormed front) (hrest : WellFormed rest) :
    WellFormed (front ++ rest) := by
  obtain ⟨cs, rfl⟩ := h
  obtain ⟨ds, rfl⟩ := hrest
  exact ⟨cs ++ ds, (encodeAll_append cs ds).symm⟩

/-! ### Cutting at ASCII -/

theorem wellFormed_of_ascii {text : Bytes} (h : ∀ b ∈ text, b.isAscii) : WellFormed text := by
  induction text with
  | nil => exact wellFormed_nil
  | cons b text ih =>
    obtain ⟨ascii, others⟩ := List.forall_mem_cons.1 h
    exact .append (encode_of_isAscii ascii ▸ wellFormed_encode _) (ih others)

/-- A well-formed text that begins with a byte of ASCII begins with that character. -/
theorem WellFormed.of_cons {b : Byte} {rest : Bytes} (ascii : b.isAscii)
    (h : WellFormed (b :: rest)) : WellFormed rest := by
  obtain ⟨cs, eq⟩ := h
  cases cs with
  | nil => cases eq
  | cons c cs =>
    rw [encodeAll_cons] at eq
    rcases encode_ascii_or_high c with ⟨d, encoded, -⟩ | ⟨-, high⟩
    · rw [encoded] at eq
      exact ⟨cs, (List.cons.inj eq).2⟩
    · obtain ⟨lead, following, encoded, -⟩ := encode_eq c
      rw [encoded, List.cons_append] at eq
      refine absurd ascii (high b ?_)
      rw [encoded, (List.cons.inj eq).1]
      exact List.mem_cons_self

theorem WellFormed.right_of_ascii {front rest : Bytes} (ascii : ∀ b ∈ front, b.isAscii)
    (h : WellFormed (front ++ rest)) : WellFormed rest := by
  induction front with
  | nil => exact h
  | cons b front ih =>
    obtain ⟨first, others⟩ := List.forall_mem_cons.1 ascii
    exact ih others (h.of_cons first)

/-- A well-formed text that ends with a byte of ASCII ends with that character. -/
theorem WellFormed.of_concat {text : Bytes} {b : Byte} (ascii : b.isAscii)
    (h : WellFormed (text ++ [b])) : WellFormed text := by
  obtain ⟨cs, eq⟩ := h
  rcases List.eq_nil_or_concat cs with rfl | ⟨init, c, rfl⟩
  · exact absurd eq (by simp)
  · rw [List.concat_eq_append, encodeAll_append, encodeAll_cons, encodeAll_nil,
      List.append_nil] at eq
    rcases encode_ascii_or_high c with ⟨d, encoded, -⟩ | ⟨-, high⟩
    · rw [encoded] at eq
      exact ⟨init, List.append_inj_left' eq rfl⟩
    · -- the last byte of the text is the last one of the character
      obtain none | ⟨front, last, encoded⟩ := List.eq_nil_or_concat (encode c)
      · exact absurd none (encode_ne_nil c)
      · rw [encoded, List.concat_eq_append, ← List.append_assoc] at eq
        refine absurd ascii (high b ?_)
        rw [encoded, List.concat_eq_append, List.singleton_inj.1 (List.append_inj_right' eq rfl)]
        exact List.mem_append_right _ List.mem_cons_self

theorem WellFormed.left_of_ascii {text behind : Bytes} (ascii : ∀ b ∈ behind, b.isAscii)
    (h : WellFormed (text ++ behind)) : WellFormed text := by
  induction behind generalizing text with
  | nil => rwa [List.append_nil] at h
  | cons b behind ih =>
    obtain ⟨first, others⟩ := List.forall_mem_cons.1 ascii
    rw [List.append_cons] at h
    exact (ih others h).of_concat first

end MarkupText.Utf8
