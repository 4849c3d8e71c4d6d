import MarkupText.Run
import MarkupText.Proofs.Line.Columns

/-!
# Indentation byte by byte

Measuring and cutting both carry along how far they have come. What they do behind the first byte is
what they would do on a line that begins at the column behind it (`extend_add`, `seek_add`). So both
have an equation for a line with a space or a tab in front, and proofs about them go through the
line byte by byte (`indent_induction`).
-/

set_option autoImplicit false

namespace MarkupText.Line

variable {line : Bytes} {start width : Nat} {b : Byte}

/-- A cut in what stands behind a number of bytes, as a cut in the whole line. -/
def Cut.behind (bytes : Nat) (cut : Cut) : Cut := ⟨bytes + cut.index, cut.overshoot⟩

theorem behind_comp_behind (first second : Nat) :
    Cut.behind first ∘ Cut.behind second = Cut.behind (first + second) := by
  funext cut
  simp only [Function.comp_apply, Cut.behind, Nat.add_assoc]

/-! ### One step -/

theorem isIndent_iff : isIndent b ↔ b = Byte.space ∨ b = Byte.tab := by
  rw [isIndent, Bool.or_eq_true, decide_eq_true_eq, decide_eq_true_eq]

theorem indentStep?_of_isIndent (column : Nat) (indent : isIndent b) :
    indentStep? column b = some (advance column b) := by
  rcases isIndent_iff.1 indent with rfl | rfl <;> rfl

theorem indentStep?_of_not (column : Nat) (ink : ¬ isIndent b) : indentStep? column b = none := by
  obtain ⟨noSpace, noTab⟩ := not_or.1 (mt isIndent_iff.2 ink)
  rw [indentStep?, if_neg noSpace, if_neg noTab]

/-! ### What is passed -/

/-- Measuring on from some columns counts them and those that follow. -/
theorem extend_add (start columns bytes : Nat) (passed : Extent) (line : Bytes) :
    extend start ⟨columns + passed.columns, bytes + passed.bytes⟩ line =
      ⟨columns + (extend (start + columns) passed line).columns,
        bytes + (extend (start + columns) passed line).bytes⟩ := by
  induction line generalizing passed with
  | nil => rfl
  | cons b rest ih =>
    simp only [extend, ← Nat.add_assoc]
    cases indentStep? (start + columns + passed.columns) b with
    | none => rfl
    | some step =>
      simp only [Nat.add_assoc]
      exact ih ⟨passed.columns + step, passed.bytes + 1⟩

theorem seek_of_le {passed : Extent} (reached : width ≤ passed.columns) (start : Nat)
    (line : Bytes) :
    seek start width passed line = some ⟨passed.bytes, passed.columns - width⟩ := by
  unfold seek
  exact if_pos reached

theorem seek_nil {passed : Extent} (short : passed.columns < width) (start : Nat) :
    seek start width passed [] = none := by
  rw [seek, if_neg (Nat.not_le.2 short)]

theorem seek_cons {passed : Extent} (short : passed.columns < width) (start : Nat) (b : Byte)
    (rest : Bytes) :
    seek start width passed (b :: rest) = (indentStep? (start + passed.columns) b).bind fun step =>
      seek start width ⟨passed.columns + step, passed.bytes + 1⟩ rest := by
  rw [seek, if_neg (Nat.not_le.2 short)]
  cases indentStep? (start + passed.columns) b <;> rfl

theorem seek_add_of_le {columns bytes : Nat} {passed : Extent} (within : columns ≤ width)
    (reached : width - columns ≤ passed.columns) (start : Nat) (line : Bytes) :
    seek start width ⟨columns + passed.columns, bytes + passed.bytes⟩ line =
      (seek (start + columns) (width - columns) passed line).map (Cut.behind bytes) := by
  have excess : columns + passed.columns - width = passed.columns - (width - columns) := by omega
  rw [seek_of_le reached, seek_of_le (Nat.sub_le_iff_le_add'.1 reached), Option.map_some,
    Cut.behind, excess]

/-- Going on from some columns looks for what is left of the width from there. -/
theorem seek_add {columns : Nat} (within : columns ≤ width) (start bytes : Nat) (passed : Extent)
    (line : Bytes) :
    seek start width ⟨columns + passed.columns, bytes + passed.bytes⟩ line =
      (seek (start + columns) (width - columns) passed line).map (Cut.behind bytes) := by
  induction line generalizing passed with
  | nil =>
    rcases Nat.lt_or_ge passed.columns (width - columns) with short | reached
    · rw [seek_nil (Nat.lt_sub_iff_add_lt'.1 short), seek_nil short, Option.map_none]
    · exact seek_add_of_le within reached start []
  | cons b rest ih =>
    rcases Nat.lt_or_ge passed.columns (width - columns) with short | reached
    · rw [seek_cons (Nat.lt_sub_iff_add_lt'.1 short), seek_cons short, ← Nat.add_assoc]
      cases indentStep? (start + columns + passed.columns) b with
      | none => rfl
      | some step =>
        simp only [Option.bind_some, Nat.add_assoc]
        exact ih ⟨passed.columns + step, passed.bytes + 1⟩
    · exact seek_add_of_le within reached start (b :: rest)

/-! ### A line byte by byte -/

theorem indentation_of_ends (ends : Ends isIndent line) (start : Nat) :
    indentation line start = ⟨0, 0⟩ := by
  cases line with
  | nil => rfl
  | cons b rest => rw [indentation, extend, indentStep?_of_not _ (ends b rfl)]

theorem indentation_cons (indent : isIndent b) (rest : Bytes) (start : Nat) :
    indentation (b :: rest) start =
      ⟨advance start b + (indentation rest (start + advance start b)).columns,
        1 + (indentation rest (start + advance start b)).bytes⟩ := by
  rw [indentation, extend, indentStep?_of_isIndent _ indent]
  simp only [Nat.add_zero, Nat.zero_add]
  exact extend_add start (advance start b) 1 ⟨0, 0⟩ rest

/-- Spaces and tabs at the front are measured by their columns. -/
theorem indentation_append {front : Bytes} (indent : ∀ b ∈ front, isIndent b) (rest : Bytes)
    (start : Nat) :
    indentation (front ++ rest) start =
      ⟨columns start front + (indentation rest (start + columns start front)).columns,
        front.length + (indentation rest (start + columns start front)).bytes⟩ := by
  induction front generalizing start with
  | nil => simp only [columns_nil, List.nil_append, List.length_nil, Nat.zero_add, Nat.add_zero]
  | cons b front ih =>
    obtain ⟨first, others⟩ := List.forall_mem_cons.1 indent
    rw [List.cons_append, indentation_cons first, ih others, columns_cons, List.length_cons,
      Nat.add_comm front.length 1]
    simp only [Nat.add_assoc]

theorem cut?_eq_seek (line : Bytes) (start width : Nat) :
    cut? line start width = seek start width ⟨0, 0⟩ line := by
  rw [cut?, cutPadded?]
  split_ifs with zero
  · rw [seek_of_le (Nat.le_of_eq zero), Nat.zero_sub]
  · simp only [Nat.sub_zero, Option.map_id']

theorem cut?_zero (line : Bytes) (start : Nat) : cut? line start 0 = some ⟨0, 0⟩ := rfl

theorem cut?_of_ends (ends : Ends isIndent line) (pos : 0 < width) (start : Nat) :
    cut? line start width = none := by
  rw [cut?_eq_seek]
  cases line with
  | nil => exact seek_nil pos start
  | cons b rest => rw [seek_cons pos, indentStep?_of_not _ (ends b rfl), Option.bind_none]

/-- Behind a space or tab that the width goes beyond, what is left of it is looked for. -/
theorem cut?_cons_of_le (indent : isIndent b) (within : advance start b ≤ width) (rest : Bytes) :
    cut? (b :: rest) start width =
      (cut? rest (start + advance start b) (width - advance start b)).map (Cut.behind 1) := by
  have pos : 0 < width := Nat.lt_of_lt_of_le (advance_pos start b) within
  rw [cut?_eq_seek, cut?_eq_seek, seek_cons pos, indentStep?_of_isIndent _ indent]
  simp only [Nat.add_zero, Nat.zero_add, Option.bind_some]
  exact seek_add within start 1 ⟨0, 0⟩ rest

/-- A space or tab that reaches the width ends the indent. -/
theorem cut?_cons_of_ge (indent : isIndent b) (pos : 0 < width) (reached : width ≤ advance start b)
    (rest : Bytes) :
    cut? (b :: rest) start width = some ⟨1, advance start b - width⟩ := by
  rw [cut?_eq_seek, seek_cons pos, indentStep?_of_isIndent _ indent]
  simp only [Nat.add_zero, Nat.zero_add, Option.bind_some]
  exact seek_of_le reached start rest

/-- Nothing is wanted, or the line has no indentation, or its first byte reaches the width, or the
width goes beyond that byte and the rest of it is wanted from the line behind. -/
theorem indent_induction {motive : Bytes → Nat → Nat → Prop}
    (zero : ∀ line start, motive line start 0)
    (ink : ∀ line start width, Ends isIndent line → 0 < width → motive line start width)
    (inside : ∀ b rest start width, isIndent b → 0 < width → width ≤ advance start b →
      motive (b :: rest) start width)
    (beyond : ∀ b rest start width, isIndent b → advance start b < width →
      motive rest (start + advance start b) (width - advance start b) →
      motive (b :: rest) start width)
    (line : Bytes) (start width : Nat) : motive line start width := by
  induction line generalizing start width with
  | nil =>
    rcases Nat.eq_zero_or_pos width with rfl | pos
    · exact zero [] start
    · exact ink [] start width ends_nil pos
  | cons b rest ih =>
    rcases Nat.eq_zero_or_pos width with rfl | pos
    · exact zero (b :: rest) start
    · by_cases indent : isIndent b
      · rcases Nat.lt_or_ge (advance start b) width with further | reached
        · exact beyond b rest start width indent further (ih _ _)
        · exact inside b rest start width indent pos reached
      · exact ink (b :: rest) start width (ends_cons indent rest) pos

end MarkupText.Line
