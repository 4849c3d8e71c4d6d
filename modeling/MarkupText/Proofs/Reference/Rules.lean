import MarkupText.Reference.Basic
import MarkupText.Run
import MarkupText.Proofs.Replacement.Pass

/-!
# Where references begin

When the rules for references keep a byte and when they replace it, and the three passes as one
after the other.
-/

set_option autoImplicit false

namespace MarkupText.Reference

/-- A run of the right bytes with a semicolon behind it. -/
theorem terminatedRun?_append {accepts : Byte → Bool} {run : Bytes} (nonempty : run ≠ [])
    (all : ∀ b ∈ run, accepts b) (ends : ¬ accepts Byte.semicolon) (rest : Bytes) :
    terminatedRun? accepts (run ++ Byte.semicolon :: rest) = some run := by
  have taken := takeWhile_append_of_ends all (ends_cons ends rest)
  simp only [terminatedRun?, taken, List.isEmpty_iff, nonempty, List.drop_left, List.head?_cons,
    if_true, if_false]

namespace Numeric

theorem rule_of_match {b : Byte} {rest : Bytes} {c : Char} {more : Nat}
    (h : match? b rest = some (c, more)) : rule b rest = .replace more (Utf8.encode c) := by
  simp only [rule, h]

theorem rule_of_no_match {b : Byte} {rest : Bytes} (h : match? b rest = none) :
    rule b rest = .keep 0 := by
  simp only [rule, h]

/-- No numeric reference begins but with an ampersand and a number sign. -/
theorem rule_keep {b : Byte} {rest : Bytes}
    (h : b = Byte.ampersand → rest.head? ≠ some Byte.hash) : rule b rest = .keep 0 := by
  have none : match? b rest = none := by
    cases rest with
    | nil => rfl
    | cons sign text =>
      refine if_neg fun begins => h begins.1 ?_
      rw [begins.2]
      rfl
  exact rule_of_no_match none

end Numeric

namespace Named

theorem rule_of_match {b : Byte} {rest characters : Bytes} {more : Nat}
    (h : match? b rest = some (characters, more)) : rule b rest = .replace more characters := by
  simp only [rule, h]

theorem rule_of_no_match {b : Byte} {rest : Bytes} (h : match? b rest = none) :
    rule b rest = .keep 0 := by
  simp only [rule, h]

/-- No named reference begins but with an ampersand. -/
theorem rule_keep {b : Byte} (h : b ≠ Byte.ampersand) (rest : Bytes) : rule b rest = .keep 0 := by
  simp only [rule, match?, if_neg h]

/-- A name that is found is replaced together with its semicolon. -/
theorem rule_found {name characters : Bytes} (nonempty : name ≠ [])
    (alphanumeric : ∀ b ∈ name, b.isAlphanumeric) (found : Names.lookup? name = some characters)
    (rest : Bytes) :
    rule Byte.ampersand (name ++ Byte.semicolon :: rest) =
      .replace (name.length + 1) characters := by
  have run := terminatedRun?_append nonempty alphanumeric (by decide) rest
  have matched : match? Byte.ampersand (name ++ Byte.semicolon :: rest) =
      some (characters, name.length + 1) := by
    rw [match?, if_pos rfl, run, Option.bind_eq_bind, Option.bind_some, found]
    rfl
  exact rule_of_match matched

end Named

/-- Resolving is the three passes one behind the other. -/
theorem bytes_resolve (text : Bytes) :
    (resolve text).bytes =
      Named.rule.output (Numeric.rule.output (Backslash.rule.output text)) := by
  have named : Named.resolve = Named.rule.replaceAll := rfl
  have numeric : Numeric.resolve = Numeric.rule.replaceAll := rfl
  rw [resolve, named, Rule.bytes_andThen_replaceAll, numeric, Rule.bytes_andThen_replaceAll,
    Backslash.unescape, Rule.bytes_replaceAll]

end MarkupText.Reference
