import Mathlib.Data.Nat.Basic
import Mathlib.Order.Basic
import Mathlib.Order.Bounds.Defs
import MarkupText.Proofs.Line.Bytewise

/-!
# Measuring and cutting indentation

An indent of some width is there if measuring finds as many columns (`isSome_cut?`), and it stops at
the least index that reaches the width (`isCut_of_cut?`). Only a tab can go beyond the width, as a
space takes up one column. So both loops describe the same columns (`cut?_agrees_with_indentation`).
-/

set_option autoImplicit false

namespace MarkupText.Line

variable {text rest : Bytes} {start width : Nat} {b : Byte} {cut : Cut}

/-! ### What is found -/

/-- There is an indent of a width if there are that many columns of indentation. -/
theorem isSome_cut? (text : Bytes) (start width : Nat) :
    (cut? text start width).isSome ↔ width ≤ (indentation text start).columns := by
  induction text, start, width using indent_induction with
  | zero text start => exact iff_of_true rfl (Nat.zero_le _)
  | ink text start width ends pos =>
    rw [cut?_of_ends ends pos, indentation_of_ends ends]
    exact iff_of_false Bool.false_ne_true (Nat.not_le.2 pos)
  | inside b rest start width indent pos reached =>
    rw [cut?_cons_of_ge indent pos reached, indentation_cons indent]
    exact iff_of_true rfl (Nat.le_trans reached (Nat.le_add_right _ _))
  | beyond b rest start width indent further ih =>
    rw [cut?_cons_of_le indent further.le, indentation_cons indent, Option.isSome_map, ih]
    exact Nat.sub_le_iff_le_add'

/-- An indent of all the columns of indentation is made of all its bytes. -/
theorem cut?_indentation (text : Bytes) (start : Nat) :
    cut? text start (indentation text start).columns =
      some ⟨(indentation text start).bytes, 0⟩ := by
  induction text generalizing start with
  | nil => rfl
  | cons b rest ih =>
    by_cases indent : isIndent b
    · rw [indentation_cons indent, cut?_cons_of_le indent (Nat.le_add_right _ _),
        Nat.add_sub_cancel_left, ih, Option.map_some, Cut.behind]
    · rw [indentation_of_ends (ends_cons indent rest), cut?_zero]

/-- Whether a cut stands at the least index that reaches a width, behind nothing but spaces and
tabs, and tells by how much the width is exceeded there. -/
structure IsCut (text : Bytes) (start width : Nat) (cut : Cut) : Prop where
  index_le : cut.index ≤ text.length
  indent : ∀ b ∈ text.take cut.index, isIndent b
  least : IsLeast {index | width ≤ columns start (text.take index)} cut.index
  reached : columns start (text.take cut.index) = width + cut.overshoot

theorem IsCut.zero (text : Bytes) (start : Nat) : IsCut text start 0 ⟨0, 0⟩ := by
  refine ⟨Nat.zero_le _, ?_, ⟨Nat.zero_le _, fun _ _ => Nat.zero_le _⟩, rfl⟩
  rw [List.take_zero]
  exact List.forall_mem_nil _

/-- No width is reached before the first byte. -/
theorem exists_succ_of_le_columns (pos : 0 < width) {index : Nat}
    (reached : width ≤ columns start (text.take index)) : ∃ last, index = last + 1 := by
  refine Nat.exists_eq_succ_of_ne_zero ?_
  rintro rfl
  rw [List.take_zero, columns_nil] at reached
  exact absurd reached (Nat.not_le.2 pos)

theorem isCut_singleton (indent : isIndent b) (pos : 0 < width)
    (reached : width ≤ advance start b) (rest : Bytes) :
    IsCut (b :: rest) start width ⟨1, advance start b - width⟩ := by
  have first : columns start ((b :: rest).take 1) = advance start b := columns_cons start b []
  refine ⟨Nat.le_add_left _ _, ?_, ⟨?_, fun index more => ?_⟩, ?_⟩
  · simpa using indent
  · exact reached.trans_eq first.symm
  · obtain ⟨last, rfl⟩ := exists_succ_of_le_columns pos more
    exact Nat.le_add_left 1 last
  · rw [first, Nat.add_sub_cancel' reached]

theorem IsCut.behind (indent : isIndent b) (further : advance start b < width)
    (h : IsCut rest (start + advance start b) (width - advance start b) cut) :
    IsCut (b :: rest) start width (cut.behind 1) := by
  have total (index : Nat) : columns start ((b :: rest).take (index + 1)) =
      advance start b + columns (start + advance start b) (rest.take index) :=
    columns_cons start b _
  have index : (cut.behind 1).index = cut.index + 1 := Nat.add_comm 1 cut.index
  refine ⟨?_, ?_, ?_, ?_⟩
  · rw [index]
    exact Nat.succ_le_succ h.index_le
  · rw [index, List.take_succ_cons]
    exact List.forall_mem_cons.2 ⟨indent, h.indent⟩
  · rw [index]
    constructor
    · show width ≤ _
      rw [total]
      exact Nat.sub_le_iff_le_add'.1 h.least.1
    · intro other more
      obtain ⟨last, rfl⟩ := exists_succ_of_le_columns (Nat.zero_lt_of_lt further) more
      refine Nat.succ_le_succ (h.least.2 (Nat.sub_le_iff_le_add'.2 ?_))
      exact more.trans_eq (total last)
  · rw [index, total, h.reached]
    show _ = width + cut.overshoot
    omega

theorem isCut_of_cut? (found : cut? text start width = some cut) : IsCut text start width cut := by
  induction text, start, width using indent_induction generalizing cut with
  | zero text start =>
    cases found
    exact IsCut.zero text start
  | ink text start width ends pos =>
    rw [cut?_of_ends ends pos] at found
    cases found
  | inside b rest start width indent pos reached =>
    rw [cut?_cons_of_ge indent pos reached] at found
    cases found
    exact isCut_singleton indent pos reached rest
  | beyond b rest start width indent further ih =>
    rw [cut?_cons_of_le indent further.le, Option.map_eq_some_iff] at found
    obtain ⟨next, there, rfl⟩ := found
    exact (ih there).behind indent further

/-- The last byte of an indent is what reaches its width, so it alone can go beyond, by less than
its own width. -/
theorem IsCut.overshoot_lt (h : IsCut text start width cut) (excess : 0 < cut.overshoot) :
    ∃ last b, cut.index = last + 1 ∧ text[last]? = some b ∧
      cut.overshoot < advance (start + columns start (text.take last)) b := by
  have reached := h.reached
  obtain ⟨last, index⟩ := exists_succ_of_le_columns (by omega) reached.ge
  have bound : last < text.length := Nat.lt_of_lt_of_le (Nat.lt_of_succ_le index.ge) h.index_le
  have read := List.getElem?_eq_getElem bound
  refine ⟨last, text[last], index, read, ?_⟩
  -- Before the last byte the width was not reached, or a smaller index would do.
  have before : ¬ width ≤ columns start (text.take last) := fun enough => by
    have least := h.least.2 enough
    omega
  rw [index, columns_take_succ read] at reached
  omega

/-- Cutting and measuring go by the same columns. An indent of a width is there if measuring finds
that many columns. It ends at the first byte that reaches the width, and goes beyond the width by at
most three columns, and only with a tab. The widest indent takes all that is measured. -/
theorem cut?_agrees_with_indentation (text : Bytes) (start width : Nat) :
    (∀ index, text[index]? = some Byte.tab →
        tabStop ∣ start + columns start (text.take (index + 1))) ∧
      ((cut? text start width).isSome ↔ width ≤ (indentation text start).columns) ∧
      (∀ cut, cut? text start width = some cut →
        IsCut text start width cut ∧ cut.overshoot ≤ 3 ∧
          (0 < cut.overshoot → ∃ last, cut.index = last + 1 ∧ text[last]? = some Byte.tab)) ∧
      cut? text start (indentation text start).columns =
        some ⟨(indentation text start).bytes, 0⟩ := by
  refine ⟨fun _ => tabStop_dvd_columns, isSome_cut? text start width, fun cut found => ?_,
    cut?_indentation text start⟩
  have isCut := isCut_of_cut? found
  rcases Nat.eq_zero_or_pos cut.overshoot with nothing | excess
  · refine ⟨isCut, nothing.trans_le (Nat.zero_le 3), fun excess => ?_⟩
    exact absurd nothing (Nat.pos_iff_ne_zero.1 excess)
  · obtain ⟨last, b, index, read, less⟩ := isCut.overshoot_lt excess
    have most := advance_le_tabStop (start + columns start (text.take last)) b
    have tab : b = Byte.tab := eq_tab_of_one_lt_advance (Nat.lt_of_le_of_lt excess less)
    exact ⟨isCut, Nat.le_of_lt_succ (Nat.lt_of_lt_of_le less most), fun _ =>
      ⟨last, index, tab ▸ read⟩⟩

/-- An indent that ends inside a tab. -/
theorem cut?_agrees_inside_tab :
    let text : Bytes := [Byte.space, Byte.space, Byte.tab, Byte.space, 0x78]
    cut? text 0 3 = some ⟨3, 1⟩ ∧ IsCut text 0 3 ⟨3, 1⟩ ∧
      ∃ last, 3 = last + 1 ∧ text[last]? = some Byte.tab := by
  intro text
  have found : cut? text 0 3 = some ⟨3, 1⟩ := by decide
  obtain ⟨isCut, -, tab⟩ := (cut?_agrees_with_indentation text 0 3).2.2.1 _ found
  exact ⟨found, isCut, tab Nat.one_pos⟩

end MarkupText.Line
