import MarkupText.Percent
import MarkupText.Proofs.Backslash
import MarkupText.Proofs.Percent.Escaped
import MarkupText.Proofs.Reference.Spelling

/-!
# Texts that stand for themselves

Resolving is three passes, of which each that changes nothing leaves the result of the others in
place. The text that comes out is what the passes make of it one behind the other, and it is shared
exactly if the text at the outset has nothing in it that any of them would replace
(`resolve_passes`).
-/

set_option autoImplicit false

namespace MarkupText

/-- A pass over the result of earlier ones leaves a copy if they did or if it replaces something. -/
theorem Rule.isCopied_andThen_replaceAll {rule : Rule} (result : Buffer) :
    (result.andThen rule.replaceAll).isCopied =
      (result.isCopied || rule.replaces result.bytes) := by
  cases result with
  | shared source => exact isCopied_replaceAll source
  | copied content =>
    simp only [Buffer.andThen, Buffer.isCopied_copied, Bool.true_or]
    split <;> rfl

namespace Reference

/-- A text without anything that resolving would replace. -/
structure IsPlain (text : Bytes) : Prop where
  unescaped : ∀ index, Backslash.isEscape text index = false
  unnumbered : ¬ HasFactor SpelledByNumber text
  unnamed : ¬ HasFactor SpelledByName text

theorem Numeric.replaces_iff {text : Bytes} :
    rule.replaces text = true ↔ HasFactor SpelledByNumber text := by
  apply replaces_iff_hasFactor rule_decides
  intro meaning spelled
  obtain ⟨more, c, none, -⟩ := digits?_complete spelled
  cases none

theorem Named.replaces_iff {text : Bytes} :
    rule.replaces text = true ↔ HasFactor SpelledByName text := by
  apply replaces_iff_hasFactor rule_decides
  intro meaning spelled
  generalize none : ([] : Bytes) = factor at spelled
  cases spelled with
  | row name numbers mem => cases none

/-- A text is plain exactly if none of the passes would replace anything in it. -/
theorem isPlain_iff {text : Bytes} :
    IsPlain text ↔ Backslash.rule.replaces text = false ∧ Numeric.rule.replaces text = false ∧
      Named.rule.replaces text = false := by
  simp only [← Bool.not_eq_true, Backslash.replaces_iff_isEscape, Numeric.replaces_iff,
    Named.replaces_iff, not_exists]
  constructor
  · intro plain
    exact ⟨fun index => Bool.not_eq_true _ ▸ plain.unescaped index, plain.unnumbered, plain.unnamed⟩
  · rintro ⟨unescaped, unnumbered, unnamed⟩
    exact ⟨fun index => Bool.eq_false_iff.2 (unescaped index), unnumbered, unnamed⟩

/-- A pass that shares its text leaves that text to the next one. -/
theorem isCopied_resolve {text : Bytes} : (resolve text).isCopied = false ↔ IsPlain text := by
  have numeric : Numeric.resolve = Numeric.rule.replaceAll := rfl
  have named : Named.resolve = Named.rule.replaceAll := rfl
  rw [isPlain_iff, resolve, named, Rule.isCopied_andThen_replaceAll, numeric,
    Rule.isCopied_andThen_replaceAll, Rule.bytes_andThen_replaceAll, Backslash.unescape,
    Rule.isCopied_replaceAll, Rule.bytes_replaceAll, Bool.or_eq_false_iff, Bool.or_eq_false_iff,
    and_assoc]
  refine and_congr_right fun unescaped => ?_
  rw [Rule.output_of_not_replaces unescaped]
  refine and_congr_right fun unnumbered => ?_
  rw [Rule.output_of_not_replaces unnumbered]

theorem bytes_resolve_of_isPlain {text : Bytes} (plain : IsPlain text) :
    (resolve text).bytes = text := by
  obtain ⟨unescaped, unnumbered, unnamed⟩ := isPlain_iff.1 plain
  rw [bytes_resolve, Rule.output_of_not_replaces unescaped, Rule.output_of_not_replaces unnumbered,
    Rule.output_of_not_replaces unnamed]

theorem isCopied_escape_of_isPlain {text : Bytes} :
    (Percent.escape true text).isCopied = false ↔
      IsPlain text ∧ (Percent.escape false text).isCopied = false := by
  have escape : ∀ resolves, (Percent.escape resolves text).isCopied =
      ((Percent.destination resolves text).isCopied ||
        Percent.rule.replaces (Percent.destination resolves text).bytes) :=
    fun resolves => Rule.isCopied_andThen_replaceAll _
  have resolved : Percent.destination true text = resolve text := rfl
  have kept : Percent.destination false text = .shared text := rfl
  rw [escape, escape, resolved, kept, Bool.or_eq_false_iff, isCopied_resolve,
    Buffer.isCopied_shared, Buffer.bytes_shared, Bool.false_or]
  refine and_congr_right fun plain => ?_
  rw [bytes_resolve_of_isPlain plain]

/-- Resolving gives what its passes give one behind the other, and so does escaping with resolving
before it. A text is shared by resolving exactly if nothing in it is to be resolved, and by both
exactly if besides nothing in it is to be escaped. -/
theorem resolve_passes (text : Bytes) :
    (resolve text).bytes =
        (Named.resolve (Numeric.resolve (Backslash.unescape text).bytes).bytes).bytes ∧
      (Percent.escape true text).bytes = (Percent.escape false (resolve text).bytes).bytes ∧
      ((resolve text).isCopied = false ↔ IsPlain text) ∧
      ((Percent.escape true text).isCopied = false ↔
        IsPlain text ∧ (Percent.escape false text).isCopied = false) := by
  have numeric : Numeric.resolve = Numeric.rule.replaceAll := rfl
  have named : Named.resolve = Named.rule.replaceAll := rfl
  refine ⟨?_, ?_, isCopied_resolve, isCopied_escape_of_isPlain⟩
  · rw [bytes_resolve, numeric, named, Backslash.unescape, Rule.bytes_replaceAll,
      Rule.bytes_replaceAll, Rule.bytes_replaceAll]
  · rw [Percent.bytes_escape, Percent.bytes_escape]
    rfl

end Reference

end MarkupText
