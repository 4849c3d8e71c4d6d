import Mathlib.Data.FinEnum
import MarkupText.Run
import MarkupText.Space
import MarkupText.Proofs.Replacement.Change

/-!
# The rule for runs of white space

`Collapses` lists the decisions of the rule. A run comes out as one separator, whether it is
replaced or is that separator already (`output_cons_of_isSpace`). So in what comes out white space
stands alone (`isCollapsed_output`), and such a text is left as it is (`IsCollapsed.not_replaces`).
-/

set_option autoImplicit false

namespace MarkupText.Space

theorem isAscii_of_isSpace {b : Byte} (h : b.isSpace) : b.isAscii := by
  revert b
  decide +kernel

/-- What the rule decides at the front of a text. -/
inductive Collapses (separator : Byte) : Byte → Bytes → Decision → Prop
  | ink {b : Byte} {rest : Bytes} : ¬ b.isSpace → Collapses separator b rest (.keep 0)
  | lone {b : Byte} {rest : Bytes} :
      b.isSpace → b = separator → Ends Byte.isSpace rest → Collapses separator b rest (.keep 0)
  | run {b : Byte} {run rest : Bytes} :
      b.isSpace → (∀ c ∈ run, c.isSpace) → Ends Byte.isSpace rest → (run = [] → b ≠ separator) →
      Collapses separator b (run ++ rest) (.replace run.length [separator])

theorem collapses {separator b : Byte} {rest : Bytes} {decision : Decision}
    (h : collapseRule separator b rest = decision) : Collapses separator b rest decision := by
  subst h
  unfold collapseRule
  simp only
  by_cases space : b.isSpace
  · rw [if_pos space]
    obtain ⟨run, behind, rfl, inside, ends⟩ := exists_run Byte.isSpace rest
    rw [takeWhile_append_of_ends inside ends]
    split_ifs with lone
    · obtain ⟨empty, same⟩ := lone
      rw [List.isEmpty_iff.1 empty]
      exact .lone space same ends
    · exact .run space inside ends fun none same => lone ⟨List.isEmpty_iff.2 none, same⟩
  · rw [if_neg space]
    exact .ink space

theorem passesBytes_collapseRule (separator : Byte) : (collapseRule separator).PassesBytes := by
  intro b rest more keep
  cases collapses keep <;> rfl

/-- Bytes that separate nothing are passed as they stand. -/
theorem output_append_of_ink {separator : Byte} {span : Bytes} (ink : ∀ b ∈ span, ¬ b.isSpace)
    (rest : Bytes) : (collapseRule separator).output (span ++ rest) =
      span ++ (collapseRule separator).output rest := by
  apply Rule.output_append_of_keeps
  intro b mem rest
  exact if_neg (ink b mem)

theorem output_cons_of_ink {separator b : Byte} (ink : ¬ b.isSpace) (rest : Bytes) :
    (collapseRule separator).output (b :: rest) = b :: (collapseRule separator).output rest :=
  output_append_of_ink (List.forall_mem_singleton.2 ink) rest

/-- A run comes out as one separator. -/
theorem output_cons_of_isSpace {separator b : Byte} (space : b.isSpace) (rest : Bytes) :
    (collapseRule separator).output (b :: rest) =
      separator :: (collapseRule separator).output (rest.dropWhile Byte.isSpace) := by
  generalize decided : collapseRule separator b rest = decision
  cases collapses decided with
  | ink ink => exact absurd space ink
  | lone _ same ends =>
    have stays : rest.dropWhile Byte.isSpace = rest :=
      dropWhile_append_of_ends (List.forall_mem_nil _) ends
    rw [Rule.output_of_keep decided, List.take_zero, List.drop_zero, stays, same]
    rfl
  | run _ inside ends _ =>
    rw [Rule.output_of_replace decided, List.drop_left, dropWhile_append_of_ends inside ends]
    rfl

/-! ### Collapsed texts -/

/-- Whether every white-space byte of a text is the separator and stands alone. -/
def IsCollapsed (separator : Byte) (text : Bytes) : Prop :=
  ∀ b rest, b :: rest <:+ text → b.isSpace → b = separator ∧ Ends Byte.isSpace rest

theorem isCollapsed_nil (separator : Byte) : IsCollapsed separator [] := by
  intro b rest suffix
  cases List.suffix_nil.1 suffix

theorem isCollapsed_cons {separator b : Byte} {rest : Bytes}
    (first : b.isSpace → b = separator ∧ Ends Byte.isSpace rest)
    (others : IsCollapsed separator rest) : IsCollapsed separator (b :: rest) := by
  intro c behind suffix
  rcases List.suffix_cons_iff.1 suffix with whole | later
  · obtain ⟨rfl, rfl⟩ := List.cons.inj whole
    exact first
  · exact others c behind later

/-- A collapsed text is left as it is. -/
theorem IsCollapsed.not_replaces {separator : Byte} {text : Bytes}
    (h : IsCollapsed separator text) : (collapseRule separator).replaces text = false := by
  apply Rule.not_replaces_of_keeps
  intro b rest suffix
  generalize decided : collapseRule separator b rest = decision
  cases collapses decided with
  | ink _ => exact ⟨0, rfl⟩
  | lone _ _ _ => exact ⟨0, rfl⟩
  | @run run behind space inside _ other =>
    obtain ⟨same, stops⟩ := h b (run ++ behind) suffix space
    cases run with
    | nil => exact absurd same (other rfl)
    | cons c run => exact absurd (inside c List.mem_cons_self) (stops c rfl)

theorem head?_output {separator : Byte} {text : Bytes} (ends : Ends Byte.isSpace text) :
    ((collapseRule separator).output text).head? = text.head? := by
  cases text with
  | nil => rw [Rule.output_nil]
  | cons b rest => rw [output_cons_of_ink (ends b rfl), List.head?_cons, List.head?_cons]

/-- A last byte that is no white space stays the last one. -/
theorem getLast?_output (separator : Byte) {text : Bytes} {c : Byte}
    (read : text.getLast? = some c) (ink : ¬ c.isSpace) :
    ((collapseRule separator).output text).getLast? = some c := by
  apply Rule.getLast?_output (P := fun d => ¬ d.isSpace) _ read ink
  intro b rest more written replace d mem
  apply not_not.2
  cases collapses replace with
  | run space inside _ _ =>
    rw [List.take_left] at mem
    rcases List.mem_cons.1 mem with rfl | later
    · exact space
    · exact inside d later

theorem isCollapsed_output (separator : Byte) (text : Bytes) :
    IsCollapsed separator ((collapseRule separator).output text) := by
  induction size : text.length using Nat.strongRecOn generalizing text with
  | ind n ih =>
    cases text with
    | nil =>
      rw [Rule.output_nil]
      exact isCollapsed_nil separator
    | cons b rest =>
      rw [List.length_cons] at size
      by_cases space : b.isSpace
      · obtain ⟨run, behind, rfl, inside, ends⟩ := exists_run Byte.isSpace rest
        rw [List.length_append] at size
        rw [output_cons_of_isSpace space, dropWhile_append_of_ends inside ends]
        refine isCollapsed_cons (fun _ => ⟨rfl, ?_⟩) (ih _ (by omega) behind rfl)
        intro c read
        exact ends c ((head?_output ends).symm.trans read)
      · rw [output_cons_of_ink space]
        exact isCollapsed_cons (fun blank => absurd blank space) (ih _ (by omega) rest rfl)

end MarkupText.Space
