import Mathlib.Data.FinEnum
import Mathlib.Data.List.TakeWhile
import MarkupText.Reference.Spelling
import MarkupText.Replacement.Substitution
import MarkupText.Proofs.Byte
import MarkupText.Proofs.Reference.Names
import MarkupText.Proofs.Reference.Rules
import MarkupText.Proofs.Replacement.Change
import MarkupText.Proofs.Replacement.Characters

/-!
# References are found exactly where they are spelled

`Decides` says what it is for a rule to replace the spellings of references, each by its meaning,
and nothing else. The rules for numeric and for named references are of this kind
(`Numeric.rule_decides`, `Named.rule_decides`), so whether they replace anything is a question of
what stands in the text (`replaces_iff_hasFactor`).
-/

set_option autoImplicit false

namespace MarkupText.Reference

/-- What a rule decides that replaces the spellings of references. -/
inductive Decides (spelled : Bytes → Bytes → Prop) : Byte → Bytes → Decision → Prop
  | reference {b : Byte} {more rest meaning : Bytes} :
      spelled (b :: more) meaning →
      Decides spelled b (more ++ rest) (.replace more.length meaning)
  | keep {b : Byte} {rest : Bytes} :
      (∀ factor meaning, spelled factor meaning → ¬ factor <+: b :: rest) →
      Decides spelled b rest (.keep 0)

/-! ### Runs -/

theorem terminatedRun?_eq_some_iff {accepts : Byte → Bool} (ends : ¬ accepts Byte.semicolon)
    {text run : Bytes} :
    terminatedRun? accepts text = some run ↔
      run ≠ [] ∧ (∀ b ∈ run, accepts b) ∧ ∃ rest, text = run ++ Byte.semicolon :: rest := by
  constructor
  · intro h
    unfold terminatedRun? at h
    simp only at h
    split_ifs at h with empty stop
    obtain rfl := Option.some.inj h
    rw [List.isEmpty_iff] at empty
    refine ⟨empty, fun b mem => List.mem_takeWhile_imp mem, ?_⟩
    obtain ⟨behind, cut⟩ := List.takeWhile_prefix (l := text) accepts
    generalize text.takeWhile accepts = run at *
    subst cut
    rw [List.drop_left, List.head?_eq_some_iff] at stop
    obtain ⟨rest, rfl⟩ := stop
    exact ⟨rest, rfl⟩
  · rintro ⟨nonempty, all, rest, rfl⟩
    exact terminatedRun?_append nonempty all ends rest

/-! ### Numbers -/

namespace Numeric

theorem foldl_number (radix : Nat) (digits : Bytes) {kept value : Nat} (pos : 0 < radix)
    (h : kept = min cap value) :
    digits.foldl (fun value digit => min cap (value * radix + digit.digitValue)) kept =
      min cap (digits.foldl (fun value digit => value * radix + digit.digitValue) value) := by
  induction digits generalizing kept value with
  | nil => exact h
  | cons digit digits ih =>
    refine ih ?_
    show min cap (kept * radix + digit.digitValue) = min cap (value * radix + digit.digitValue)
    rcases Nat.le_total cap value with large | small
    · -- once at the cap, the number stays there
      have kept_le : cap ≤ cap * radix := Nat.le_mul_of_pos_right cap pos
      have value_le : cap * radix ≤ value * radix := Nat.mul_le_mul_right radix large
      rw [h, Nat.min_eq_left large]
      omega
    · rw [h, Nat.min_eq_right small]

/-- The number that is kept is right up to the cap. -/
theorem number_eq {radix : Nat} (pos : 0 < radix) (digits : Bytes) :
    number radix digits = min cap (value radix digits) :=
  foldl_number radix digits pos (Nat.min_eq_right (Nat.zero_le _)).symm

/-- Numbers above the cap are no characters, so the cap does not show. -/
theorem characterOf_number {radix : Nat} (pos : 0 < radix) (digits : Bytes) :
    Utf8.characterOf (number radix digits) = Utf8.characterOf (value radix digits) := by
  rw [number_eq pos]
  rcases Nat.le_total cap (value radix digits) with large | small
  · have noCap : ¬ (cap ≠ 0 ∧ cap.isValidChar) := by decide
    have none : ¬ (value radix digits ≠ 0 ∧ (value radix digits).isValidChar) := by
      unfold cap at large
      unfold Nat.isValidChar
      omega
    rw [Nat.min_eq_left large, Utf8.characterOf, Utf8.characterOf, if_neg noCap, if_neg none]
  · rw [Nat.min_eq_right small]

theorem digits?_sound {text : Bytes} {c : Char} {size : Nat} (h : digits? text = some (c, size)) :
    ∃ factor rest, text = factor ++ rest ∧ factor.length = size ∧
      SpelledByNumber (Byte.ampersand :: Byte.hash :: factor) (Utf8.encode c) := by
  unfold digits? at h
  split at h
  · cases h
  · next mark rest =>
    split_ifs at h with hexadecimal
    · obtain ⟨digits, run, read⟩ := Option.bind_eq_some_iff.1 h
      obtain ⟨nonempty, all, behind, rfl⟩ := (terminatedRun?_eq_some_iff (by decide)).1 run
      cases read
      refine ⟨mark :: digits ++ [Byte.semicolon], behind, ?_, ?_, ?_⟩
      · rw [List.append_assoc, List.singleton_append, List.cons_append]
      · rw [List.length_append, List.length_cons, List.length_singleton]
      · rw [characterOf_number (by decide)]
        exact .hexadecimal mark digits hexadecimal nonempty all
    · obtain ⟨digits, run, read⟩ := Option.bind_eq_some_iff.1 h
      obtain ⟨nonempty, all, behind, cut⟩ := (terminatedRun?_eq_some_iff (by decide)).1 run
      split_ifs at read with few
      cases read
      refine ⟨digits ++ [Byte.semicolon], behind, ?_, ?_, ?_⟩
      · rw [cut, List.append_assoc, List.singleton_append]
      · rw [List.length_append, List.length_singleton]
      · rw [characterOf_number (by decide)]
        exact .decimal digits nonempty few all

theorem digits?_complete {factor meaning : Bytes} (h : SpelledByNumber factor meaning) :
    ∃ more c, factor = Byte.ampersand :: Byte.hash :: more ∧ meaning = Utf8.encode c ∧
      ∀ rest, digits? (more ++ rest) = some (c, more.length) := by
  cases h with
  | decimal digits nonempty few all =>
    refine ⟨digits ++ [Byte.semicolon], _, rfl, rfl, fun rest => ?_⟩
    have run := terminatedRun?_append nonempty all (by decide) rest
    obtain ⟨d, more, rfl⟩ := List.exists_cons_of_ne_nil nonempty
    have notLetter : ¬ (d = 0x78 ∨ d = 0x58) := by
      rintro (rfl | rfl) <;> exact absurd (all _ List.mem_cons_self) (by decide)
    rw [List.cons_append] at run
    rw [List.append_assoc, List.singleton_append, List.cons_append, digits?, if_neg notLetter, run,
      Option.bind_eq_bind, Option.bind_some, if_pos (show _ ≤ maxDecimalDigits from few),
      List.length_append, List.length_singleton, characterOf_number (by decide)]
    rfl
  | hexadecimal mark digits letter nonempty all =>
    refine ⟨mark :: digits ++ [Byte.semicolon], _, rfl, rfl, fun rest => ?_⟩
    have run := terminatedRun?_append nonempty all (by decide) rest
    rw [List.append_assoc, List.singleton_append, List.cons_append, digits?, if_pos letter, run,
      Option.bind_eq_bind, Option.bind_some, List.length_append, List.length_singleton,
      characterOf_number (by decide)]
    rfl

theorem rule_decides {b : Byte} {rest : Bytes} {decision : Decision} (h : rule b rest = decision) :
    Decides SpelledByNumber b rest decision := by
  subst h
  unfold rule
  cases matched : match? b rest with
  | none =>
    refine .keep fun factor meaning spelled front => ?_
    obtain ⟨more, c, rfl, -, found⟩ := digits?_complete spelled
    obtain ⟨behind, cut⟩ := front
    have read := found behind
    simp only [List.cons_append, List.cons.injEq] at cut
    obtain ⟨rfl, rfl⟩ := cut
    simp [match?, read] at matched
  | some found =>
    obtain ⟨c, size⟩ := found
    unfold match? at matched
    split at matched
    · cases matched
    · next sign text =>
      split_ifs at matched with begins
      obtain ⟨rfl, rfl⟩ := begins
      obtain ⟨⟨c, count⟩, read, same⟩ := Option.map_eq_some_iff.1 matched
      obtain ⟨factor, behind, rfl, rfl, spelled⟩ := digits?_sound read
      cases same
      exact .reference spelled

end Numeric

/-! ### Names -/

namespace Named

theorem rule_decides {b : Byte} {rest : Bytes} {decision : Decision} (h : rule b rest = decision) :
    Decides SpelledByName b rest decision := by
  subst h
  cases matched : match? b rest with
  | none =>
    have keep := rule_of_no_match matched
    rw [keep]
    refine .keep fun factor meaning spelled front => ?_
    obtain ⟨behind, cut⟩ := front
    cases spelled with
    | row name numbers mem =>
      have sound := Names.sound_of_mem mem
      have replace := rule_found sound.nonempty sound.alphanumeric (Names.lookup?_of_mem mem) behind
      have whole : Byte.ampersand :: (utf8 name ++ Byte.semicolon :: behind) = b :: rest := by
        rw [← cut, List.append_assoc, List.append_assoc]
        rfl
      obtain ⟨rfl, rfl⟩ := List.cons.inj whole
      rw [keep] at replace
      cases replace
  | some found =>
    obtain ⟨characters, size⟩ := found
    rw [rule_of_match matched]
    unfold match? at matched
    split_ifs at matched with begins
    subst begins
    obtain ⟨run, read, looked⟩ := Option.bind_eq_some_iff.1 matched
    obtain ⟨meaning, known, same⟩ := Option.bind_eq_some_iff.1 looked
    obtain ⟨-, -, behind, rfl⟩ := (terminatedRun?_eq_some_iff (by decide)).1 read
    cases same
    obtain ⟨name, numbers, mem, rfl, rfl⟩ := Names.mem_of_lookup? known
    rw [List.append_cons, ← List.length_singleton, ← List.length_append]
    exact .reference (.row name numbers mem)

end Named

/-! ### What spellings are made of -/

/-- The spellings by number are ASCII. -/
theorem SpelledByNumber.ascii {factor meaning : Bytes} (h : SpelledByNumber factor meaning) :
    ∀ b ∈ factor, b.isAscii := by
  have front : ∀ b ∈ utf8 "&#", b.isAscii := List.all_eq_true.1 rfl
  have last : ∀ b ∈ utf8 ";", b.isAscii := List.all_eq_true.1 rfl
  cases h with
  | decimal digits _ _ all =>
    have inside : ∀ b ∈ digits, b.isAscii := fun b mem =>
      Byte.isAscii_of_isDigit (all b mem)
    simp only [List.forall_mem_append]
    exact ⟨⟨front, inside⟩, last⟩
  | hexadecimal mark digits letter _ all =>
    have first : mark.isAscii := by
      rcases letter with rfl | rfl <;> decide
    have inside : ∀ b ∈ digits, b.isAscii := fun b mem =>
      Byte.isAscii_of_isHexDigit (all b mem)
    simp only [List.forall_mem_append, List.forall_mem_cons]
    exact ⟨⟨front, first, inside⟩, last⟩

/-- The spellings by number are longer than the character. -/
theorem SpelledByNumber.length_lt {factor meaning : Bytes} (h : SpelledByNumber factor meaning) :
    meaning.length < factor.length := by
  cases h with
  | decimal digits nonempty _ all =>
    have size : (utf8 "&#" ++ digits ++ utf8 ";").length = digits.length + 3 := by
      rw [List.length_append, List.length_append, Nat.add_comm (utf8 "&#").length]
      rfl
    have most := Utf8.length_encode_le (Utf8.characterOf (value 10 digits))
    match digits, nonempty with
    | [d], _ =>
      -- one digit makes a reference of four bytes, but no character of four bytes
      have single : ∀ d : Byte, d.isDigit →
          (Utf8.encode (Utf8.characterOf (value 10 [d]))).length ≤ 3 := by decide +kernel
      have few := single d (all d List.mem_cons_self)
      rw [size, List.length_singleton]
      omega
    | _ :: _ :: _, _ =>
      rw [size, List.length_cons, List.length_cons]
      omega
  | hexadecimal mark digits _ nonempty _ =>
    have most := Utf8.length_encode_le (Utf8.characterOf (value 16 digits))
    have pos := List.length_pos_iff.2 nonempty
    have size : (utf8 "&#" ++ mark :: digits ++ utf8 ";").length = digits.length + 4 := by
      rw [List.length_append, List.length_append, Nat.add_comm (utf8 "&#").length]
      rfl
    omega

theorem SpelledByName.ascii {factor meaning : Bytes} (h : SpelledByName factor meaning) :
    ∀ b ∈ factor, b.isAscii := by
  have front : ∀ b ∈ utf8 "&", b.isAscii := List.all_eq_true.1 rfl
  have last : ∀ b ∈ utf8 ";", b.isAscii := List.all_eq_true.1 rfl
  cases h with
  | row name numbers mem =>
    have inside : ∀ b ∈ utf8 name, b.isAscii := fun b inside =>
      Byte.isAscii_of_isAlphanumeric ((Names.sound_of_mem mem).alphanumeric b inside)
    simp only [List.forall_mem_append]
    exact ⟨⟨front, inside⟩, last⟩

/-! ### Texts with references in them -/

section Texts

variable {spelled : Bytes → Bytes → Prop} {rule : Rule}

theorem Decides.not_prefix {b : Byte} {rest : Bytes} {more : Nat}
    (decides : Decides spelled b rest (.keep more)) {factor meaning : Bytes}
    (known : spelled factor meaning) : ¬ factor <+: b :: rest := by
  cases decides with
  | keep none => exact none factor meaning known

variable (decides : ∀ {b rest decision}, rule b rest = decision → Decides spelled b rest decision)

include decides

theorem passesBytes : rule.PassesBytes := by
  intro b rest more keep
  cases decides keep
  rfl

/-- Something is replaced exactly if the text has a reference in it. -/
theorem replaces_iff_hasFactor (nonempty : ∀ meaning, ¬ spelled [] meaning) {text : Bytes} :
    rule.replaces text = true ↔ HasFactor spelled text := by
  rw [(passesBytes decides).replaces_iff]
  constructor
  · rintro ⟨b, rest, more, written, suffix, replace⟩
    cases decides replace with
    | @reference factor rest _ known =>
      refine ⟨b :: factor, written, known, List.IsInfix.trans ?_ suffix.isInfix⟩
      exact (List.prefix_append (b :: factor) rest).isInfix
  · rintro ⟨factor, meaning, known, before, behind, rfl⟩
    cases factor with
    | nil => exact absurd known (nonempty meaning)
    | cons b more =>
      refine ⟨b, more ++ behind, ?_⟩
      cases decided : rule b (more ++ behind) with
      | keep count =>
        have kept := decides decided
        exact absurd (List.prefix_append (b :: more) behind) (kept.not_prefix known)
      | replace count written =>
        refine ⟨count, written, ?_, rfl⟩
        rw [List.append_assoc]
        exact List.suffix_append before _

/-- Where spellings are ASCII and stand for characters, nothing else is replaced. -/
theorem asciiOnly (ascii : ∀ factor meaning, spelled factor meaning → ∀ b ∈ factor, b.isAscii)
    (wellFormed : ∀ factor meaning, spelled factor meaning → Utf8.WellFormed meaning) :
    rule.AsciiOnly := by
  refine ⟨passesBytes decides, fun b rest more written replace => ?_⟩
  cases decides replace with
  | @reference factor rest _ known =>
    obtain ⟨first, others⟩ := List.forall_mem_cons.1 (ascii _ _ known)
    rw [List.take_left]
    exact ⟨first, others, wellFormed _ _ known⟩

end Texts

end MarkupText.Reference
