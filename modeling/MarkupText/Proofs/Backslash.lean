import Mathlib.Tactic.SplitIfs
import MarkupText.Escape
import MarkupText.Proofs.Replacement.Change

/-!
# Taking away backslashes

What the scan decides at each byte, and where it finds something to take away
(`replaces_iff_isEscape`).
-/

set_option autoImplicit false

namespace MarkupText.Backslash

/-- What the rule decides at the front of a text. -/
inductive Decides : Byte → Bytes → Decision → Prop
  | escape {next : Byte} {rest : Bytes} :
      next.isPunctuation → Decides Byte.backslash (next :: rest) (.replace 1 [next])
  | keep {b : Byte} {rest : Bytes} :
      (b = Byte.backslash → ∀ next, rest.head? = some next → ¬ next.isPunctuation) →
      Decides b rest (.keep 0)

theorem rule_decides {b : Byte} {rest : Bytes} {decision : Decision} (h : rule b rest = decision) :
    Decides b rest decision := by
  subst h
  match rest with
  | [] => exact .keep fun _ next none => by cases none
  | next :: rest =>
    unfold rule
    simp only
    split_ifs with escape
    · obtain ⟨rfl, punctuation⟩ := escape
      exact .escape punctuation
    · refine .keep fun backslash other read punctuation => escape ⟨backslash, ?_⟩
      cases read
      exact punctuation

theorem passesBytes : rule.PassesBytes := by
  intro b rest more keep
  cases rule_decides keep
  rfl

theorem rule_escape {next : Byte} (h : next.isPunctuation) (rest : Bytes) :
    rule Byte.backslash (next :: rest) = .replace 1 [next] := by
  simp only [rule, h, and_self, if_true]

theorem rule_keep {b : Byte} {rest : Bytes}
    (h : b = Byte.backslash → ∀ next, rest.head? = some next → ¬ next.isPunctuation) :
    rule b rest = .keep 0 := by
  generalize decided : rule b rest = decision
  cases rule_decides decided with
  | escape punctuation => exact absurd punctuation (h rfl _ rfl)
  | keep => rfl

/-- An escape is a backslash with punctuation behind it. -/
theorem isEscape_iff {text : Bytes} {index : Nat} :
    isEscape text index = true ↔
      ∃ next behind, text.drop index = Byte.backslash :: next :: behind ∧ next.isPunctuation := by
  have first : text[index]? = (text.drop index)[0]? := by rw [List.getElem?_drop, Nat.add_zero]
  have second : text[index + 1]? = (text.drop index)[1]? := List.getElem?_drop.symm
  rw [isEscape, first, second]
  match text.drop index with
  | [] => simp
  | [b] => simp
  | b :: next :: behind => simp [and_assoc]

/-- Something is unescaped exactly if there is an escape somewhere. -/
theorem replaces_iff_isEscape {text : Bytes} :
    rule.replaces text = true ↔ ∃ index, isEscape text index = true := by
  rw [passesBytes.replaces_iff]
  constructor
  · rintro ⟨b, rest, more, written, ⟨kept, rfl⟩, replace⟩
    cases rule_decides replace with
    | escape punctuation =>
      exact ⟨kept.length, isEscape_iff.2 ⟨_, _, List.drop_left, punctuation⟩⟩
  · rintro ⟨index, escape⟩
    obtain ⟨next, behind, cut, punctuation⟩ := isEscape_iff.1 escape
    exact ⟨_, _, _, _, cut ▸ List.drop_suffix index text, rule_escape punctuation behind⟩

/-- A stretch without backslashes is passed as it stands. -/
theorem output_append {span : Bytes} (h : Byte.backslash ∉ span) (rest : Bytes) :
    rule.output (span ++ rest) = span ++ rule.output rest := by
  apply Rule.output_append_of_keeps
  intro b mem rest
  exact rule_keep fun backslash => absurd (backslash ▸ mem) h

theorem output_of_not_mem {text : Bytes} (h : Byte.backslash ∉ text) : rule.output text = text := by
  have passed := output_append h []
  rwa [List.append_nil, Rule.output_nil, List.append_nil] at passed

end MarkupText.Backslash
