import MarkupText.Proofs.Fold.Table
import MarkupText.Proofs.Replacement.Pass
import MarkupText.Proofs.Utf8.Reading

/-!
# The rule of case folding

The shortcuts of the rule change nothing (`rule_eq`). It looks up each character (`rule_encode`),
passes what is none (`rule_broken`), and replaces nothing but characters that fold (`rule_replace`).
-/

set_option autoImplicit false

namespace MarkupText.Fold

/-- The rule reads what stands at the front and looks it up, whatever byte that begins with: ASCII
is folded as the table says, and a continuation byte is no character. -/
theorem rule_eq (b : Byte) (rest : Bytes) :
    rule b rest = match Utf8.front b rest with
      | .broken size => .keep (size - 1)
      | .character c size =>
        match folding? c with
        | none => .keep (size - 1)
        | some folded => .replace (size - 1) (Utf8.encodeAll folded) := by
  by_cases ascii : b.isAscii
  · have read := Utf8.front_encode (Utf8.encode_of_isAscii ascii) rest
    rw [List.nil_append] at read
    rw [rule, if_pos ascii, read]
    simp only [folding?_of_isAscii ascii]
    by_cases upper : b.isUpper
    · rw [if_pos upper, if_pos upper]
      simp only [Utf8.encodeAll_cons, Utf8.encode_of_isAscii (Byte.isAscii_toLower ascii)]
      rfl
    · rw [if_neg upper, if_neg upper]
      rfl
  · by_cases continues : b.isContinuation
    · rw [rule, if_neg ascii, if_pos continues, Utf8.front_of_isContinuation continues]
    · exact (if_neg ascii).trans (if_neg continues)

/-- Where something is replaced, that is a character that folds. -/
theorem rule_replace {b : Byte} {rest written : Bytes} {more : Nat}
    (h : rule b rest = .replace more written) :
    ∃ c size folded, Utf8.front b rest = .character c size ∧ folding? c = some folded ∧
      more = size - 1 ∧ written = Utf8.encodeAll folded := by
  rw [rule_eq] at h
  split at h
  · cases h
  · next c size read =>
    split at h
    · cases h
    · next folded known =>
      cases h
      exact ⟨c, size, folded, read, known, rfl, rfl⟩

/-- A character is kept or replaced as a whole. -/
theorem rule_encode {c : Char} {b : Byte} {following : Bytes}
    (encoded : Utf8.encode c = b :: following) (rest : Bytes) :
    rule b (following ++ rest) = match folding? c with
      | none => .keep following.length
      | some folded => .replace following.length (Utf8.encodeAll folded) := by
  rw [rule_eq, Utf8.front_encode encoded]
  rfl

/-- What is no character is kept as a whole. -/
theorem rule_broken {b : Byte} {read rest : Bytes} (broken : Utf8.IsBroken b read rest) :
    rule b (read ++ rest) = .keep read.length := by
  rw [rule_eq, broken.front]
  rfl

end MarkupText.Fold
