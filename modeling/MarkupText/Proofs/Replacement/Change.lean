import MarkupText.Proofs.Replacement.Pass

/-!
# Whether a pass changes its text

A pass that replaces nothing gives back its text. The converse takes an argument for each rule,
since later replacements might make up for earlier ones. It is enough to show that what stands for
a replaced front is never that front again (`sharesUnchanged`), and this follows from lengths
where all replacements make the text longer (`changes_of_grows`) or all make it shorter
(`changes_of_shrinks`).
-/

set_option autoImplicit false

namespace MarkupText

/-- Whether a pass shares its text exactly if it does not change it. -/
def SharesUnchanged (pass : Bytes → Buffer) : Prop :=
  ∀ text, (pass text).isCopied = false ↔ (pass text).bytes = text

namespace Rule

variable {rule : Rule}

/-- Up to the first replacement the text stands as it is. -/
theorem exists_first {text : Bytes} (h : rule.replaces text = true) :
    ∃ kept b rest more written, text = kept ++ b :: rest ∧
      rule b rest = .replace more written ∧
      rule.output text = kept ++ (written ++ rule.output (rest.drop more)) := by
  induction text using pieces.induct rule with
  | case1 => cases replaces_nil.symm.trans h
  | case2 b rest more keep ih =>
    rw [replaces_of_keep keep] at h
    obtain ⟨kept, c, behind, count, written, cut, replace, output⟩ := ih h
    refine ⟨b :: rest.take more ++ kept, c, behind, count, written, ?_, replace, ?_⟩
    · rw [List.append_assoc, ← cut, List.cons_append, List.take_append_drop]
    · rw [output_of_keep keep, output, List.append_assoc]
  | case3 b rest more written replace => exact ⟨[], b, rest, more, written, rfl, replace,
      output_of_replace replace⟩

/-- What stands for a replaced front and all behind it is not what stood there. -/
def Changes (rule : Rule) : Prop :=
  ∀ b rest more written, rule b rest = .replace more written →
    written ++ rule.output (rest.drop more) ≠ b :: rest

theorem sharesUnchanged (changes : rule.Changes) : SharesUnchanged rule.replaceAll := by
  intro text
  rw [isCopied_replaceAll, bytes_replaceAll]
  refine ⟨output_of_not_replaces, fun same => Bool.eq_false_iff.2 fun replaces => ?_⟩
  obtain ⟨kept, b, rest, more, written, cut, replace, output⟩ := exists_first replaces
  rw [output, cut] at same
  exact changes b rest more written replace (List.append_cancel_left same)

/-! ### By length -/

theorem length_take_add_length_drop (more : Nat) (rest : Bytes) :
    (rest.take more).length + (rest.drop more).length = rest.length := by
  rw [← List.length_append, List.take_append_drop]

theorem length_le_length_output {text : Bytes}
    (grows : ∀ b rest more written, rule b rest = .replace more written →
      (rest.take more).length < written.length) :
    text.length ≤ (rule.output text).length := by
  induction text using pieces.induct rule with
  | case1 => exact Nat.zero_le _
  | case2 b rest more keep ih =>
    have cut := length_take_add_length_drop more rest
    rw [output_of_keep keep, List.length_append, List.length_cons, List.length_cons]
    omega
  | case3 b rest more written replace ih =>
    have cut := length_take_add_length_drop more rest
    have longer := grows b rest more written replace
    rw [output_of_replace replace, List.length_append, List.length_cons]
    omega

theorem length_output_le_length {text : Bytes}
    (shrinks : ∀ b rest more written, rule b rest = .replace more written →
      written.length ≤ (rest.take more).length + 1) :
    (rule.output text).length ≤ text.length := by
  induction text using pieces.induct rule with
  | case1 => exact Nat.le_of_eq (congrArg List.length output_nil)
  | case2 b rest more keep ih =>
    have cut := length_take_add_length_drop more rest
    rw [output_of_keep keep, List.length_append, List.length_cons, List.length_cons]
    omega
  | case3 b rest more written replace ih =>
    have cut := length_take_add_length_drop more rest
    have shorter := shrinks b rest more written replace
    rw [output_of_replace replace, List.length_append, List.length_cons]
    omega

/-- Where every replacement is longer than what it replaces, none can be made up for. -/
theorem changes_of_grows
    (grows : ∀ b rest more written, rule b rest = .replace more written →
      (rest.take more).length + 1 < written.length) : rule.Changes := by
  intro b rest more written replace same
  have longer := grows b rest more written replace
  have behind : (rest.drop more).length ≤ (rule.output (rest.drop more)).length :=
    length_le_length_output fun c behind count put replaced =>
      Nat.lt_of_succ_lt (grows c behind count put replaced)
  have cut := length_take_add_length_drop more rest
  have total := congrArg List.length same
  rw [List.length_append, List.length_cons] at total
  omega

/-- Where every replacement is shorter than what it replaces, none can be made up for. -/
theorem changes_of_shrinks
    (shrinks : ∀ b rest more written, rule b rest = .replace more written →
      written.length ≤ (rest.take more).length) : rule.Changes := by
  intro b rest more written replace same
  have shorter := shrinks b rest more written replace
  have behind : (rule.output (rest.drop more)).length ≤ (rest.drop more).length :=
    length_output_le_length fun c behind count put replaced =>
      Nat.le_succ_of_le (shrinks c behind count put replaced)
  have cut := length_take_add_length_drop more rest
  have total := congrArg List.length same
  rw [List.length_append, List.length_cons] at total
  omega

/-! ### Rules that are asked about each byte -/

/-- Whether a rule passes one byte at a time, and so is asked about each byte up to the first that
it replaces. -/
def PassesBytes (rule : Rule) : Prop := ∀ b rest more, rule b rest = .keep more → more = 0

/-- Such a rule replaces something exactly if it would replace something at some place. -/
theorem PassesBytes.replaces_iff (passes : rule.PassesBytes) {text : Bytes} :
    rule.replaces text = true ↔
      ∃ b rest more written, b :: rest <:+ text ∧ rule b rest = .replace more written := by
  constructor
  · intro h
    obtain ⟨kept, b, rest, more, written, cut, replace, -⟩ := exists_first h
    exact ⟨b, rest, more, written, ⟨kept, cut.symm⟩, replace⟩
  · rintro ⟨b, rest, more, written, suffix, replace⟩
    induction text using pieces.induct rule with
    | case1 => cases List.suffix_nil.1 suffix
    | case2 c behind count keep ih =>
      obtain rfl := passes c behind count keep
      rw [replaces_of_keep keep, List.drop_zero]
      rcases List.suffix_cons_iff.1 suffix with whole | later
      · obtain ⟨rfl, rfl⟩ := List.cons.inj whole
        rw [keep] at replace
        cases replace
      · rw [List.drop_zero] at ih
        exact ih later
    | case3 c behind count put replaced => exact replaces_of_replace replaced

end Rule

end MarkupText
