import Mathlib.Data.Nat.Digits.Lemmas
import MarkupText.Proofs.Reference.Resolution

/-!
# Characters by their numbers

A reference by number is read as a number of any size (`value_eq_ofDigits`), and that number stands
for its character or, where it has none, for the replacement character (`denotes_characterOf`).
Every character but the null one has numerals that fit into a reference (`spells_numeral`), and it
comes back from each of them (`resolve_numbered`).
-/

set_option autoImplicit false

namespace MarkupText.Reference

/-! ### Numerals -/

/-- Digits of a class that spell a number. -/
structure Spells (accepts : Byte → Bool) (radix number : Nat) (digits : Bytes) : Prop where
  accepted : ∀ b ∈ digits, accepts b
  value_eq : value radix digits = number

/-- The digits of a number in order, with no zero in front. -/
def numeral (radix number : Nat) : Bytes :=
  (Nat.digits radix number).reverse.map fun digit => Byte.lowerHex.getD digit 0

theorem value_append_singleton (radix : Nat) (digits : Bytes) (digit : Byte) :
    value radix (digits ++ [digit]) = value radix digits * radix + digit.digitValue := by
  simp [value, List.foldl_append]

/-- Digits are read by their places. -/
theorem value_eq_ofDigits (radix : Nat) (digits : Bytes) :
    value radix digits = Nat.ofDigits radix (digits.reverse.map Byte.digitValue) := by
  induction digits using List.reverseRecOn with
  | nil => rfl
  | append_singleton digits digit ih =>
    rw [value_append_singleton, ih, List.reverse_append, List.reverse_singleton,
      List.singleton_append, List.map_cons, Nat.ofDigits_cons, Nat.mul_comm, Nat.add_comm]

/-- Zeros in front do not count. -/
theorem value_replicate_append (radix zeros : Nat) (digits : Bytes) :
    value radix (List.replicate zeros 0x30 ++ digits) = value radix digits := by
  have zero : Byte.digitValue 0x30 = 0 := by decide
  rw [value_eq_ofDigits, value_eq_ofDigits, List.reverse_append, List.map_append,
    Nat.ofDigits_append, List.reverse_replicate, List.map_replicate, zero,
    Nat.ofDigits_replicate_zero, Nat.mul_zero, Nat.add_zero]

/-- The digits of a radix up to sixteen, each with its value. -/
theorem digit_of_lt {n : Nat} (h : n < 16) :
    (Byte.lowerHex.getD n 0).digitValue = n ∧ (Byte.lowerHex.getD n 0).isHexDigit ∧
      (n < 10 → (Byte.lowerHex.getD n 0).isDigit) := by
  revert n
  decide

theorem spells_numeral {accepts : Byte → Bool} {radix : Nat} (two_le : 2 ≤ radix)
    (le_sixteen : radix ≤ 16) (accepted : ∀ n < radix, accepts (Byte.lowerHex.getD n 0))
    (number : Nat) : Spells accepts radix number (numeral radix number) where
  accepted := by
    intro b mem
    obtain ⟨n, inside, rfl⟩ := List.mem_map.1 mem
    exact accepted n (Nat.digits_lt_base two_le (List.mem_reverse.1 inside))
  value_eq := by
    have back : (numeral radix number).reverse.map Byte.digitValue = Nat.digits radix number := by
      rw [numeral, ← List.map_reverse, List.reverse_reverse, List.map_map]
      have same : ∀ n ∈ Nat.digits radix number,
          (Byte.digitValue ∘ fun digit => Byte.lowerHex.getD digit 0) n = id n := by
        intro n mem
        exact (digit_of_lt (Nat.lt_of_lt_of_le (Nat.digits_lt_base two_le mem) le_sixteen)).1
      rw [List.map_congr_left same, List.map_id]
    rw [value_eq_ofDigits, back, Nat.ofDigits_digits]

/-- Seven decimal digits are enough for every character. -/
theorem length_numeral_le (c : Char) : (numeral 10 c.toNat).length ≤ 7 := by
  have bound : c.toNat < 10 ^ 7 := by
    rw [← Char.toNat_val]
    rcases c.valid with h | h <;> omega
  rw [numeral, List.length_map, List.length_reverse]
  exact (Nat.digits_length_le_iff (by decide) _).2 bound

/-! ### What a number stands for -/

/-- The character that a number stands for in a reference: the one that has this number, but the
replacement character for zero, for surrogates, and beyond the last character. -/
inductive Denotes : Nat → Char → Prop
  | character {c : Char} : c ≠ '\x00' → Denotes c.toNat c
  | other {number : Nat} :
      number = 0 ∨ (0xD800 ≤ number ∧ number ≤ 0xDFFF) ∨ 0x10FFFF < number →
      Denotes number '\uFFFD'

theorem denotes_characterOf (number : Nat) : Denotes number (Utf8.characterOf number) := by
  unfold Utf8.characterOf
  split_ifs with h
  · obtain ⟨nonzero, valid⟩ := h
    have number_eq := Utf8.toNat_charOfNat valid
    have known := @Denotes.character (Char.ofNat number) fun null => nonzero ?_
    · rwa [number_eq] at known
    · rw [← number_eq, null]
      rfl
  · apply Denotes.other
    rw [not_and_or] at h
    simp only [Nat.isValidChar] at h
    omega

theorem characterOf_toNat {c : Char} (h : c ≠ '\x00') : Utf8.characterOf c.toNat = c := by
  have nonzero : c.toNat ≠ 0 := fun zero => h (Char.toNat_inj.1 zero)
  rw [Utf8.characterOf, if_pos ⟨nonzero, c.valid⟩, Char.ofNat_toNat]

namespace Numeric

theorem delimited : Delimited SpelledByNumber where
  shape := by
    intro factor meaning known
    cases known with
    | decimal digits _ _ all =>
      have absent : ∀ b : Byte, ¬ b.isDigit → b ∉ digits := fun b other mem => other (all b mem)
      refine ⟨Byte.hash :: digits, rfl, ?_, ?_⟩
      · exact List.not_mem_cons_of_ne_of_not_mem (by decide) (absent _ (by decide))
      · exact List.not_mem_cons_of_ne_of_not_mem (by decide) (absent _ (by decide))
    | hexadecimal mark digits letter _ all =>
      have absent : ∀ b : Byte, ¬ b.isHexDigit → b ≠ 0x78 ∧ b ≠ 0x58 → b ∉ mark :: digits := by
        rintro b other ⟨small, capital⟩ mem
        rcases List.mem_cons.1 mem with rfl | inside
        · exact letter.elim small capital
        · exact other (all b inside)
      refine ⟨Byte.hash :: mark :: digits, rfl, ?_, ?_⟩
      · exact List.not_mem_cons_of_ne_of_not_mem (by decide) (absent _ (by decide) (by decide))
      · exact List.not_mem_cons_of_ne_of_not_mem (by decide) (absent _ (by decide) (by decide))
  functional := by
    intro factor meaning another known also
    obtain ⟨more, c, rfl, rfl, found⟩ := digits?_complete known
    obtain ⟨others, d, whole, rfl, read⟩ := digits?_complete also
    simp only [List.cons.injEq, true_and] at whole
    subst whole
    have same := (found []).symm.trans (read [])
    simp only [Option.some.injEq, Prod.mk.injEq, and_true] at same
    rw [same]

/-- A spelling by number that is the whole text. -/
theorem bytes_resolve_spelled {factor meaning : Bytes} (known : SpelledByNumber factor meaning) :
    (resolve factor).bytes = meaning := by
  have alone := output_append_spelled delimited rule_decides known [] []
  rw [Rule.output_nil, List.nil_append, List.nil_append, List.append_nil, List.append_nil] at alone
  exact (Rule.bytes_replaceAll factor).trans alone

theorem ne_nil_of_spells {accepts : Byte → Bool} {radix : Nat} {c : Char} {digits : Bytes}
    (nonzero : c ≠ '\x00') (h : Spells accepts radix c.toNat digits) : digits ≠ [] := by
  rintro rfl
  exact nonzero (Char.toNat_inj.1 h.value_eq.symm)

theorem bytes_resolve_decimal {c : Char} (nonzero : c ≠ '\x00') {digits : Bytes}
    (few : digits.length ≤ 7) (h : Spells Byte.isDigit 10 c.toNat digits) :
    (resolve (utf8 "&#" ++ digits ++ utf8 ";")).bytes = Utf8.encode c := by
  have known := SpelledByNumber.decimal digits (ne_nil_of_spells nonzero h) few h.accepted
  rw [h.value_eq, characterOf_toNat nonzero] at known
  exact bytes_resolve_spelled known

theorem bytes_resolve_hexadecimal {c : Char} (nonzero : c ≠ '\x00') {mark : Byte}
    (letter : mark = 0x78 ∨ mark = 0x58) (zeros : Nat) {digits : Bytes}
    (h : Spells Byte.isHexDigit 16 c.toNat digits) :
    (resolve (utf8 "&#" ++ mark :: (List.replicate zeros 0x30 ++ digits) ++ utf8 ";")).bytes =
      Utf8.encode c := by
  have all : ∀ b ∈ List.replicate zeros 0x30 ++ digits, b.isHexDigit := by
    rw [List.forall_mem_append]
    refine ⟨?_, h.accepted⟩
    intro b mem
    rw [List.eq_of_mem_replicate mem]
    decide
  have nonempty := List.append_ne_nil_of_right_ne_nil (List.replicate zeros 0x30)
    (ne_nil_of_spells nonzero h)
  have known := SpelledByNumber.hexadecimal mark _ letter nonempty all
  rw [value_replicate_append, h.value_eq, characterOf_toNat nonzero] at known
  exact bytes_resolve_spelled known

/-- Numeric references are resolved, each to the character that its number denotes. Every character
but the null one is denoted by some of them, and comes out of all that spell its number: with up to
seven decimal digits, or with hexadecimal ones and any number of zeros before them. -/
theorem resolve_numbered :
    Resolves SpelledByNumber resolve ∧
      (∀ number, Denotes number (Utf8.characterOf number)) ∧
      ∀ c : Char, c ≠ '\x00' →
        ((∃ digits, digits.length ≤ 7 ∧ Spells Byte.isDigit 10 c.toNat digits) ∧
          ∀ digits, digits.length ≤ 7 → Spells Byte.isDigit 10 c.toNat digits →
            (resolve (utf8 "&#" ++ digits ++ utf8 ";")).bytes = Utf8.encode c) ∧
        (∃ digits, Spells Byte.isHexDigit 16 c.toNat digits) ∧
          ∀ mark, mark = 0x78 ∨ mark = 0x58 → ∀ zeros digits,
            Spells Byte.isHexDigit 16 c.toNat digits →
            (resolve (utf8 "&#" ++ mark :: (List.replicate zeros 0x30 ++ digits) ++
              utf8 ";")).bytes = Utf8.encode c := by
  refine ⟨resolves delimited rule_decides, denotes_characterOf, ?_⟩
  intro c nonzero
  have decimal : Spells Byte.isDigit 10 c.toNat (numeral 10 c.toNat) :=
    spells_numeral (by decide) (by decide)
      (fun n lt => (digit_of_lt (Nat.lt_trans lt (by decide))).2.2 lt) _
  have hexadecimal : Spells Byte.isHexDigit 16 c.toNat (numeral 16 c.toNat) :=
    spells_numeral (by decide) (by decide) (fun n lt => (digit_of_lt lt).2.1) _
  refine ⟨⟨⟨_, length_numeral_le c, decimal⟩, ?_⟩, ⟨_, hexadecimal⟩, ?_⟩
  · intro digits few spelled
    exact bytes_resolve_decimal nonzero few spelled
  · intro mark letter zeros digits spelled
    exact bytes_resolve_hexadecimal nonzero letter zeros spelled

/-- A reference inside of what looks like the front of another one, and the same character with more
zeros than a word has digits. -/
theorem resolve_numbered_snowman :
    let c := '☃'
    (c ≠ '\x00' ∧ Spells Byte.isDigit 10 c.toNat (utf8 "0009731") ∧
      Spells Byte.isHexDigit 16 c.toNat (utf8 "2603")) ∧
    (resolve (utf8 "&#0009731;")).bytes = utf8 "☃" ∧
      (resolve (utf8 "&#X" ++ List.replicate 20 0x30 ++ utf8 "2603;")).bytes = utf8 "☃" ∧
      (resolve (utf8 "&#x&#0009731;41;")).bytes = utf8 "&#x☃41;" := by
  intro c
  have nonzero : c ≠ '\x00' := by decide
  have decimal : Spells Byte.isDigit 10 c.toNat (utf8 "0009731") :=
    ⟨List.all_eq_true.1 rfl, rfl⟩
  have hexadecimal : Spells Byte.isHexDigit 16 c.toNat (utf8 "2603") :=
    ⟨List.all_eq_true.1 rfl, rfl⟩
  obtain ⟨resolves, -, recovers⟩ := resolve_numbered
  obtain ⟨⟨-, fromDecimal⟩, -, fromHexadecimal⟩ := recovers c nonzero
  have spelled := SpelledByNumber.decimal (utf8 "0009731") (by decide) (by decide) decimal.accepted
  have between := resolves.anywhere (utf8 "&#x") _ _ (utf8 "41;") spelled
  refine ⟨⟨nonzero, decimal, hexadecimal⟩, ?_, ?_, ?_⟩
  · exact fromDecimal _ (by decide) decimal
  · exact fromHexadecimal 0x58 (.inr rfl) 20 _ hexadecimal
  · exact between.trans (by decide +kernel)

end Numeric

end MarkupText.Reference
