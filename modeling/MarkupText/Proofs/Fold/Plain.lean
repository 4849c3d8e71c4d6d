import MarkupText.Proofs.Fold.Rule

/-!
# Folding from character to character

The scan folds each character by itself (`output_encode`) and takes over what is no character
(`output_broken`), as the plain definition does. So the two agree on every text, and a text can be
cut wherever no continuation byte follows (`fold_eq_foldPlainly`).
-/

set_option autoImplicit false

namespace MarkupText.Fold

open Utf8

/-! ### The scan -/

theorem output_encode (c : Char) (rest : Bytes) :
    rule.output (encode c ++ rest) = encodeAll (foldChar c) ++ rule.output rest := by
  obtain ⟨b, following, encoded, -⟩ := encode_eq c
  have decided := rule_encode encoded rest
  cases known : folding? c with
  | none =>
    simp only [known] at decided
    rw [foldChar, known, Option.getD_none, encodeAll_cons, encodeAll_nil, List.append_nil, encoded,
      List.cons_append, Rule.output_of_keep decided, List.take_left, List.drop_left]
  | some folded =>
    simp only [known] at decided
    rw [foldChar, known, Option.getD_some, encoded, List.cons_append,
      Rule.output_of_replace decided, List.drop_left]

theorem output_broken {b : Byte} {read rest : Bytes} (broken : IsBroken b read rest) :
    rule.output (b :: (read ++ rest)) = b :: (read ++ rule.output rest) := by
  rw [Rule.output_of_keep (rule_broken broken), List.take_left, List.drop_left, List.cons_append]

/-! ### The plain definition -/

theorem foldPlainly_encode (c : Char) (rest : Bytes) :
    foldPlainly (encode c ++ rest) = encodeAll (foldChar c) ++ foldPlainly rest := by
  obtain ⟨b, following, encoded, -⟩ := encode_eq c
  rw [encoded, List.cons_append, foldPlainly, front_encode encoded]
  simp only [Nat.add_sub_cancel, List.drop_left]

theorem foldPlainly_broken {b : Byte} {read rest : Bytes} (broken : IsBroken b read rest) :
    foldPlainly (b :: (read ++ rest)) = b :: (read ++ foldPlainly rest) := by
  rw [foldPlainly, broken.front]
  simp only [Nat.add_sub_cancel, List.take_left, List.drop_left, List.cons_append]

theorem output_eq_foldPlainly (text : Bytes) : rule.output text = foldPlainly text := by
  induction text using text_induction with
  | nil => rw [Rule.output_nil, foldPlainly]
  | character c rest ih => rw [output_encode, foldPlainly_encode, ih]
  | broken b read rest broken ih => rw [output_broken broken, foldPlainly_broken broken, ih]

/-! ### Cutting -/

theorem beginAlike_append {rest : Bytes} (ends : Ends Byte.isContinuation rest) (text : Bytes) :
    BeginAlike text (text ++ rest) := by
  cases text with
  | nil => exact beginAlike_of_ends ends_nil ends
  | cons b text => exact fun _ _ => Iff.rfl

/-- What stands before anything but a continuation byte is folded by itself. -/
theorem output_append {rest : Bytes} (ends : Ends Byte.isContinuation rest) (text : Bytes) :
    rule.output (text ++ rest) = rule.output text ++ rule.output rest := by
  induction text using text_induction with
  | nil => rw [Rule.output_nil, List.nil_append, List.nil_append]
  | character c text ih =>
    rw [List.append_assoc, output_encode, output_encode, ih, List.append_assoc]
  | broken b read text broken ih =>
    have stays : IsBroken b read (text ++ rest) := broken.congr (beginAlike_append ends text)
    rw [List.cons_append, List.append_assoc, output_broken stays, output_broken broken, ih,
      List.cons_append, List.append_assoc]

/-- Folding with its shortcuts is folding one character at a time, each as its row says and by
itself where it has none. So texts can be folded one behind the other, unless the second one begins
with a continuation byte. -/
theorem fold_eq_foldPlainly :
    (∀ text, (fold text).bytes = foldPlainly text) ∧
    (∀ c, (∃ row ∈ rows, row.1 = c.toNat ∧ foldChar c = row.2.map Char.ofNat) ∨
      (∀ row ∈ rows, row.1 ≠ c.toNat) ∧ foldChar c = [c]) ∧
    (∀ front rest, (∀ b, rest.head? = some b → ¬ b.isContinuation) →
      (fold (front ++ rest)).bytes = (fold front).bytes ++ (fold rest).bytes) := by
  have bytes : ∀ text, (fold text).bytes = rule.output text := Rule.bytes_replaceAll
  refine ⟨fun text => ?_, foldChar_eq, fun front rest ends => ?_⟩
  · rw [bytes, output_eq_foldPlainly]
  · rw [bytes, bytes, bytes, output_append ends]

/-- A sequence that is cut off in front of a character that folds to two. -/
theorem fold_eq_foldPlainly_truncated :
    let front : Bytes := [0xC3, 0x89, 0xE2, 0x98]
    let rest := utf8 "ẞA"
    (fold (front ++ rest)).bytes = (fold front).bytes ++ (fold rest).bytes ∧
      (fold (front ++ rest)).bytes = [0xC3, 0xA9, 0xE2, 0x98] ++ utf8 "ssa" := by
  intro front rest
  obtain ⟨-, -, cut⟩ := fold_eq_foldPlainly
  have apart := cut front rest (by decide +kernel)
  refine ⟨apart, apart.trans ?_⟩
  decide +kernel

end MarkupText.Fold
