import MarkupText.Proofs.Line.Indent

/-!
# Indents behind a cut tab

Where an indent ends inside a tab, the rest of the tab stands as spaces in front of the line, and
the next indent begins with them. An indent that goes as far as this padding leaves over all columns
that it does not take (`cutPadded?_balanced_iff`). So does an indent of no width, which leaves the
padding whole. But one that ends inside the padding loses what it does not take of it
(`IsPadded.account`).
-/

set_option autoImplicit false

namespace MarkupText.Line

variable {line : Bytes} {start padding width : Nat} {cut : Cut}

/-- Whether a line begins with spaces that stand for the rest of a tab. -/
def IsPadded (padding : Nat) (line : Bytes) : Prop := List.replicate padding Byte.space <+: line

/-- The columns of indentation that follow an index of a line. -/
def columnsBehind (line : Bytes) (start index : Nat) : Nat :=
  (indentation (line.drop index) (start + columns start (line.take index))).columns

/-- The columns of the padding that an indent neither takes nor leaves over. -/
def lostColumns (padding width : Nat) : Nat := if width = 0 then 0 else padding - width

/-! ### Up to an index and behind it -/

theorem columns_add_columnsBehind {index : Nat} (indent : ∀ b ∈ line.take index, isIndent b)
    (start : Nat) :
    columns start (line.take index) + columnsBehind line start index =
      (indentation line start).columns := by
  have whole := indentation_append indent (line.drop index) start
  rw [List.take_append_drop] at whole
  exact (congrArg Extent.columns whole).symm

/-- No columns are lost by an indent in a line without padding. -/
theorem IsCut.account (h : IsCut line start width cut) :
    width + (cut.overshoot + columnsBehind line start cut.index) =
      (indentation line start).columns := by
  rw [← columns_add_columnsBehind h.indent, h.reached, Nat.add_assoc]

/-! ### The padding -/

theorem columns_replicate_space (start padding : Nat) :
    columns start (List.replicate padding Byte.space) = padding := by
  induction padding generalizing start with
  | zero => rfl
  | succ more ih =>
    rw [List.replicate_succ, columns_cons, ih]
    exact Nat.add_comm 1 more

theorem IsPadded.take_eq (padded : IsPadded padding line) {index : Nat} (within : index ≤ padding) :
    line.take index = List.replicate index Byte.space := by
  obtain ⟨rest, rfl⟩ := padded
  rw [List.take_append_of_le_length (List.length_replicate.symm ▸ within), List.take_replicate,
    Nat.min_eq_left within]

/-- Each byte of the padding takes up one column. -/
theorem IsPadded.columns_take (padded : IsPadded padding line) {index : Nat}
    (within : index ≤ padding) (start : Nat) : columns start (line.take index) = index := by
  rw [padded.take_eq within, columns_replicate_space]

theorem IsPadded.account_padding (padded : IsPadded padding line) (start : Nat) :
    padding + columnsBehind line start padding = (indentation line start).columns := by
  have indent : ∀ b ∈ line.take padding, isIndent b := by
    rw [padded.take_eq (Nat.le_refl padding)]
    intro b mem
    rw [List.eq_of_mem_replicate mem]
    rfl
  rw [← columns_add_columnsBehind indent, padded.columns_take (Nat.le_refl padding)]

/-- An indent that ends inside the padding ends at its own width. -/
theorem IsPadded.cut_eq (padded : IsPadded padding line) (h : IsCut line start width cut)
    (inside : width < padding) : cut = ⟨width, 0⟩ := by
  have le : cut.index ≤ width := h.least.2 (padded.columns_take inside.le start).ge
  have reached := h.reached
  rw [padded.columns_take (le.trans inside.le)] at reached
  obtain ⟨index, overshoot⟩ := cut
  simp only at le reached
  obtain rfl : overshoot = 0 := by omega
  exact congrArg (Cut.mk · 0) reached

/-- An indent as wide as the padding takes the whole of it. -/
theorem IsPadded.le_index (padded : IsPadded padding line) (h : IsCut line start width cut)
    (beyond : padding ≤ width) : padding ≤ cut.index := by
  by_contra short
  have reached := h.reached
  rw [padded.columns_take (Nat.le_of_not_le short)] at reached
  omega

/-! ### What becomes of the columns -/

theorem cutPadded?_zero (line : Bytes) (start padding : Nat) :
    cutPadded? line start padding 0 = some ⟨0, padding⟩ := rfl

theorem cutPadded?_of_pos (pos : 0 < width) (line : Bytes) (start padding : Nat) :
    cutPadded? line start padding width =
      (cut? line start width).map fun cut => { cut with index := cut.index - padding } := by
  rw [cutPadded?, if_neg (Nat.pos_iff_ne_zero.1 pos), cut?_eq_seek]

/-- The columns of a padded line are those that the indent takes, those that it leaves over, and
those that are lost where it ends inside the padding. -/
theorem IsPadded.account (padded : IsPadded padding line)
    (found : cutPadded? line start padding width = some cut) :
    width + lostColumns padding width +
        (cut.overshoot + columnsBehind line start (padding + cut.index)) =
      (indentation line start).columns := by
  have atPadding := padded.account_padding start
  unfold lostColumns
  rcases Nat.eq_zero_or_pos width with rfl | pos
  · rw [cutPadded?_zero] at found
    cases found
    rw [if_pos rfl, Nat.zero_add]
    exact atPadding
  · rw [cutPadded?_of_pos pos, Option.map_eq_some_iff] at found
    obtain ⟨inner, there, rfl⟩ := found
    have isCut := isCut_of_cut? there
    rw [if_neg (Nat.pos_iff_ne_zero.1 pos)]
    rcases Nat.lt_or_ge width padding with inside | beyond
    · obtain rfl := padded.cut_eq isCut inside
      simp only [Nat.sub_eq_zero_of_le inside.le, Nat.add_zero, Nat.zero_add]
      rw [Nat.add_sub_cancel' inside.le]
      exact atPadding
    · simp only [Nat.sub_eq_zero_of_le beyond, Nat.add_zero,
        Nat.add_sub_cancel' (padded.le_index isCut beyond)]
      exact isCut.account

/-- What an indent leaves over of a padded line is all that it does not take, unless it ends inside
the padding: of no width it leaves the padding whole, and from the width of the padding on it leaves
what the line without padding does. -/
theorem cutPadded?_balanced_iff (padded : IsPadded padding line)
    (found : cutPadded? line start padding width = some cut) :
    width ≤ (indentation line start).columns ∧
      (cut.overshoot + columnsBehind line start (padding + cut.index) =
          (indentation line start).columns - width ↔
        width = 0 ∨ padding ≤ width) := by
  have account := padded.account found
  unfold lostColumns at account
  split_ifs at account with zero <;> omega

/-- An indent that goes beyond the padding and ends inside a tab. -/
theorem cutPadded?_balanced_inside_tab :
    let line : Bytes := [Byte.space, Byte.space, Byte.tab, Byte.space, 0x78]
    IsPadded 2 line ∧ cutPadded? line 2 2 3 = some ⟨1, 3⟩ ∧
      3 + columnsBehind line 2 3 = (indentation line 2).columns - 3 := by
  intro line
  have padded : IsPadded 2 line := ⟨[Byte.tab, Byte.space, 0x78], rfl⟩
  have found : cutPadded? line 2 2 3 = some ⟨1, 3⟩ := by decide
  exact ⟨padded, found, (cutPadded?_balanced_iff padded found).2.2 (.inr (by decide))⟩

/-- An indent of one column in a padding of two loses the other one. -/
theorem cutPadded?_loses_column :
    let line : Bytes := [Byte.space, Byte.space]
    IsPadded 2 line ∧ cutPadded? line 0 2 1 = some ⟨0, 0⟩ ∧
      0 + columnsBehind line 0 2 ≠ (indentation line 0).columns - 1 := by
  intro line
  exact ⟨⟨[], rfl⟩, by decide, by decide⟩

end MarkupText.Line
