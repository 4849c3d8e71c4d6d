import MarkupText.Escape
import MarkupText.Proofs.Backslash
import MarkupText.Proofs.Fold.Rule
import MarkupText.Proofs.Percent.Escaped
import MarkupText.Proofs.Reference.Spelling
import MarkupText.Proofs.Space.Collapse

/-!
# A text is shared exactly if it does not change

Each of the transforms that are a single pass gives back its own text as a shared one or makes a
copy that differs from it (`sharesUnchanged_passes`). Escaping makes every text longer that it
touches, and resolving backslashes or numeric references makes it shorter. A folded character is
another character at the place where it stood. Collapsing never makes a text longer, and where it
keeps the length it puts another byte in the place of one. Named references can do both, and what
they stand for can begin as they do; there the output lags behind the text and never catches up
(`Reference.Named.lag_eq_nil`).
-/

set_option autoImplicit false

namespace MarkupText

namespace Html

theorem changes : rule.Changes := by
  apply Rule.changes_of_grows
  intro b rest more written replace
  unfold rule reference? at replace
  split_ifs at replace <;> cases replace <;> rw [List.take_zero] <;> decide

end Html

namespace Backslash

theorem changes : rule.Changes := by
  apply Rule.changes_of_shrinks
  intro b rest more written replace
  cases rule_decides replace with
  | escape => exact Nat.le_refl 1

end Backslash

namespace Reference

namespace Numeric

theorem changes : rule.Changes := by
  apply Rule.changes_of_shrinks
  intro b rest more written replace
  cases rule_decides replace with
  | reference spelled =>
    rw [List.take_left]
    exact Nat.le_of_lt_succ spelled.length_lt

end Numeric

namespace Named

/-- What begins as the reference does that stands for it is shorter than the reference. -/
theorem length_lt_of_spelled {factor meaning : Bytes} (h : SpelledByName factor meaning) :
    ∃ first behind, meaning = first :: behind ∧
      (first.isAscii → meaning.length < factor.length) := by
  cases h with
  | row name numbers mem =>
    have sound := Names.sound_of_mem mem
    have size : (utf8 "&" ++ utf8 name ++ utf8 ";").length = (utf8 name).length + 2 := by
      rw [List.length_append, List.length_append, Nat.add_comm (utf8 "&").length]
      rfl
    obtain ⟨first, behind, cut⟩ := List.exists_cons_of_ne_nil sound.stands
    refine ⟨first, behind, cut, fun ascii => ?_⟩
    rw [size]
    exact sound.shorter first (by rw [cut]; rfl) ascii

/-- A meaning at the start of a text that has ASCII in front, at least as much as the reference is
long, ends before that ASCII does. -/
theorem exists_left_of_spelled {factor meaning front rest out : Bytes}
    (spelled : SpelledByName factor meaning) (nonempty : front ≠ [])
    (ascii : ∀ b ∈ front, b.isAscii) (long : factor.length ≤ front.length)
    (h : meaning ++ out = front ++ rest) :
    ∃ left, left ≠ [] ∧ front = meaning ++ left ∧ out = left ++ rest := by
  obtain ⟨first, behind, stands, shorter⟩ := length_lt_of_spelled spelled
  have begins : first.isAscii := by
    obtain ⟨c, others, rfl⟩ := List.exists_cons_of_ne_nil nonempty
    rw [stands] at h
    rw [(List.cons.inj h).1]
    exact ascii c List.mem_cons_self
  have short := Nat.lt_of_lt_of_le (shorter begins) long
  rcases List.append_eq_append_iff.1 h with ⟨left, cut, later⟩ | ⟨beyond, cut, -⟩
  · refine ⟨left, ?_, cut, later⟩
    rintro rfl
    rw [cut, List.append_nil] at short
    exact absurd short (Nat.lt_irrefl _)
  · rw [cut, List.length_append] at short
    omega

/-- If the output is the text itself behind some ASCII, there is no such ASCII and nothing was
replaced. The output lags behind the text by what was put before it, each byte that is kept turns
this lag round, and each reference whose meaning fits the lag makes it longer. -/
theorem lag_eq_nil {lag text : Bytes} (ascii : ∀ b ∈ lag, b.isAscii)
    (h : rule.output text = lag ++ text) : lag = [] ∧ rule.replaces text = false := by
  induction text using Rule.pieces.induct rule generalizing lag with
  | case1 =>
    rw [Rule.output_nil, List.append_nil] at h
    exact ⟨h.symm, Rule.replaces_nil⟩
  | case2 b rest more keep ih =>
    obtain rfl := passesBytes rule_decides b rest more keep
    rw [Rule.output_of_keep keep, List.take_zero, List.drop_zero, List.singleton_append] at h
    rw [Rule.replaces_of_keep keep, List.drop_zero]
    rw [List.drop_zero] at ih
    cases lag with
    | nil => exact ⟨rfl, (ih (List.forall_mem_nil _) (List.cons.inj h).2).2⟩
    | cons a lag =>
      rw [List.cons_append] at h
      obtain ⟨rfl, later⟩ := List.cons.inj h
      obtain ⟨first, others⟩ := List.forall_mem_cons.1 ascii
      rw [List.append_cons] at later
      have turned := ih (List.forall_mem_append.2 ⟨others, List.forall_mem_singleton.2 first⟩) later
      exact absurd turned.1 (List.append_ne_nil_of_right_ne_nil lag (List.cons_ne_nil b []))
  | case3 b rest more written replace ih =>
    rw [Rule.output_of_replace replace] at h
    cases rule_decides replace with
    | @reference factor rest _ spelled =>
      rw [List.drop_left] at h ih
      rw [← List.cons_append, ← List.append_assoc] at h
      have ahead := List.forall_mem_append.2 ⟨ascii, spelled.ascii⟩
      have long : (b :: factor).length ≤ (lag ++ b :: factor).length := by
        rw [List.length_append]
        exact Nat.le_add_left _ _
      have nonempty := List.append_ne_nil_of_right_ne_nil lag (List.cons_ne_nil b factor)
      -- the meaning is a part of what was ahead of it, and the rest of that is the new lag
      obtain ⟨left, remains, cut, later⟩ := exists_left_of_spelled spelled nonempty ahead long h
      rw [cut] at ahead
      have turned := ih (List.forall_mem_append.1 ahead).2 later
      exact absurd turned.1 remains

theorem changes : rule.Changes := by
  intro b rest more written replace same
  have unchanged : rule.output (b :: rest) = [] ++ b :: rest := by
    rw [Rule.output_of_replace replace, same, List.nil_append]
  have none := (lag_eq_nil (List.forall_mem_nil _) unchanged).2
  rw [Rule.replaces_of_replace replace] at none
  cases none

end Named

end Reference

namespace Percent

theorem length_pos_escapeByte (b : Byte) : 0 < (escapeByte b).length := by
  unfold escapeByte
  split_ifs <;> exact Nat.succ_pos _

theorem length_le_length_flatMap_escapeByte (span : Bytes) :
    span.length ≤ (span.flatMap escapeByte).length := by
  induction span with
  | nil => exact Nat.le_refl 0
  | cons b span ih =>
    have pos := length_pos_escapeByte b
    rw [List.flatMap_cons, List.length_append, List.length_cons]
    omega

theorem changes : rule.Changes := by
  apply Rule.changes_of_grows
  intro b rest more written replace
  cases rule_decides replace with
  | @sequence _ following rest _ barred _ _ _ =>
    have reserved : ¬ isUnreserved b := fun unreserved =>
      barred (isUrlSafe_of_isUnreserved unreserved)
    have first : (escapeByte b).length = 3 := by
      rw [escapeByte, if_neg reserved]
      rfl
    have behind := length_le_length_flatMap_escapeByte following
    rw [List.take_left, List.flatMap_cons, List.length_append, first]
    omega

end Percent

namespace Fold

theorem changes : rule.Changes := by
  intro b rest more written replace same
  obtain ⟨c, size, folded, read, known, rfl, rfl⟩ := rule_replace replace
  have sound := folding?_sound known
  obtain ⟨d, others, rfl⟩ := List.exists_cons_of_ne_nil sound.nonempty
  obtain ⟨lead, following, encoded, -⟩ := Utf8.encode_eq d
  rw [Utf8.encodeAll_cons, encoded, List.append_assoc, List.cons_append] at same
  obtain ⟨rfl, behind⟩ := List.cons.inj same
  rw [← behind, Utf8.front_encode encoded] at read
  cases read
  exact sound.head_ne rfl

end Fold

namespace Space

theorem changes (separator : Byte) : (collapseRule separator).Changes := by
  intro b rest more written replace same
  have behind : ((collapseRule separator).output (rest.drop more)).length ≤
      (rest.drop more).length := Rule.length_output_le_length fun c rest count put replaced => by
    cases collapses replaced
    exact Nat.le_add_left 1 _
  cases collapses replace with
  | @run run rest _ _ _ other =>
    have total := congrArg List.length same
    rw [List.length_append, List.length_singleton, List.length_cons, List.length_append] at total
    rw [List.drop_left] at behind total
    have none : run = [] := List.length_eq_zero_iff.1 (by omega)
    exact other none (List.cons.inj same).1.symm

end Space

/-- Each pass shares its text exactly if it leaves it unchanged. -/
theorem sharesUnchanged_passes :
    SharesUnchanged Html.escape ∧ SharesUnchanged Backslash.unescape ∧
      SharesUnchanged Reference.Numeric.resolve ∧ SharesUnchanged Reference.Named.resolve ∧
      SharesUnchanged (Percent.escape false) ∧ SharesUnchanged Fold.fold ∧
      ∀ separator, SharesUnchanged (Space.collapse separator) :=
  ⟨Rule.sharesUnchanged Html.changes, Rule.sharesUnchanged Backslash.changes,
    Rule.sharesUnchanged Reference.Numeric.changes, Rule.sharesUnchanged Reference.Named.changes,
    Rule.sharesUnchanged Percent.changes, Rule.sharesUnchanged Fold.changes,
    fun separator => Rule.sharesUnchanged (Space.changes separator)⟩

end MarkupText
