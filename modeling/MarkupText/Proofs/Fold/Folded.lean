import MarkupText.Proofs.Byte
import MarkupText.Proofs.Fold.Plain

/-!
# Folded texts stay as they are

A text is folded if each of its characters is (`IsFolded`). Folding gives such a text, since what
was no character does not become one in front of what was folded (`isFolded_output`), and it
replaces nothing in one (`IsFolded.not_replaces`). So folding twice is folding once (`fold_fold`).
-/

set_option autoImplicit false

namespace MarkupText.Fold

open Utf8

/-- A text of characters that do not fold, with bytes in between that are none. -/
inductive IsFolded : Bytes → Prop
  | nil : IsFolded []
  | character {c : Char} {rest : Bytes} :
      folding? c = none → IsFolded rest → IsFolded (encode c ++ rest)
  | broken {b : Byte} {read rest : Bytes} :
      IsBroken b read rest → IsFolded rest → IsFolded (b :: (read ++ rest))

theorem IsFolded.not_replaces {text : Bytes} (h : IsFolded text) : rule.replaces text = false := by
  induction h with
  | nil => exact Rule.replaces_nil
  | @character c rest known _ ih =>
    obtain ⟨b, following, encoded, -⟩ := encode_eq c
    have decided := rule_encode encoded rest
    simp only [known] at decided
    rw [encoded, List.cons_append, Rule.replaces_of_keep decided, List.drop_left, ih]
  | broken broken _ ih =>
    rw [Rule.replaces_of_keep (rule_broken broken), List.drop_left, ih]

/-! ### Capital letters -/

/-- A capital letter is a character that folds. -/
theorem not_isUpper_of_mem_encode {d : Char} (known : folding? d = none) :
    ∀ b ∈ encode d, ¬ b.isUpper := by
  intro b mem upper
  rcases encode_ascii_or_high d with ⟨c, encoded, ascii, number⟩ | ⟨-, high⟩
  · rw [encoded] at mem
    obtain rfl := List.mem_singleton.1 mem
    have same : Char.ofNat b.toNat = d := by rw [number, Char.ofNat_toNat]
    have folds := folding?_of_isAscii ascii
    rw [same, known, if_pos upper] at folds
    cases folds
  · exact high b mem (Byte.isAscii_of_isUpper upper)

theorem IsFolded.not_isUpper {text : Bytes} (h : IsFolded text) : ∀ b ∈ text, ¬ b.isUpper := by
  induction h with
  | nil => exact List.forall_mem_nil _
  | character known _ ih =>
    exact List.forall_mem_append.2 ⟨not_isUpper_of_mem_encode known, ih⟩
  | @broken b read rest broken _ ih =>
    have first : ¬ b.isUpper := fun upper => broken.not_isAscii (Byte.isAscii_of_isUpper upper)
    have others : ∀ c ∈ read, ¬ c.isUpper := fun c mem upper =>
      not_isAscii_of_isContinuation (broken.continues c mem) (Byte.isAscii_of_isUpper upper)
    exact List.forall_mem_cons.2 ⟨first, List.forall_mem_append.2 ⟨others, ih⟩⟩

/-! ### What folding writes -/

theorem foldChar_ne_nil (c : Char) : foldChar c ≠ [] := by
  cases known : folding? c with
  | none =>
    rw [foldChar, known, Option.getD_none]
    exact List.cons_ne_nil c []
  | some folded =>
    rw [foldChar, known, Option.getD_some]
    exact (folding?_sound known).nonempty

theorem isFolded_encodeAll_append {cs : List Char} (known : ∀ c ∈ cs, folding? c = none)
    {rest : Bytes} (h : IsFolded rest) : IsFolded (encodeAll cs ++ rest) := by
  induction cs with
  | nil => exact h
  | cons c cs ih =>
    obtain ⟨first, others⟩ := List.forall_mem_cons.1 known
    rw [encodeAll_cons, List.append_assoc]
    exact .character first (ih others)

/-- A folded text begins with a continuation byte exactly if the text does, and then with the same
one. -/
theorem beginAlike_output (text : Bytes) : BeginAlike text (rule.output text) := by
  cases text using text_induction with
  | nil =>
    rw [Rule.output_nil]
    exact beginAlike_of_ends ends_nil ends_nil
  | character c rest =>
    obtain ⟨d, others, folds⟩ := List.exists_cons_of_ne_nil (foldChar_ne_nil c)
    rw [output_encode, folds, encodeAll_cons, List.append_assoc]
    exact beginAlike_of_ends (ends_encode c _) (ends_encode d _)
  | broken b read rest broken =>
    rw [output_broken broken]
    exact fun _ _ => Iff.rfl

theorem isFolded_output (text : Bytes) : IsFolded (rule.output text) := by
  induction text using text_induction with
  | nil =>
    rw [Rule.output_nil]
    exact .nil
  | character c rest ih =>
    rw [output_encode]
    exact isFolded_encodeAll_append (fun d mem => folding?_of_mem_foldChar mem) ih
  | broken b read rest broken ih =>
    rw [output_broken broken]
    exact .broken (broken.congr (beginAlike_output rest)) ih

theorem output_output (text : Bytes) : rule.output (rule.output text) = rule.output text :=
  Rule.output_of_not_replaces (isFolded_output text).not_replaces

/-- A folded text is not changed by folding it once more, and it is not copied either. -/
theorem fold_fold (text : Bytes) :
    (fold (fold text).bytes).bytes = (fold text).bytes ∧
      (fold (fold text).bytes).isCopied = false := by
  have bytes : (fold text).bytes = rule.output text := Rule.bytes_replaceAll text
  have settled : fold (rule.output text) = .shared (rule.output text) :=
    Rule.replaceAll_of_not_replaces (isFolded_output text).not_replaces
  rw [bytes, settled]
  exact ⟨rfl, rfl⟩

end MarkupText.Fold
