import MarkupText.Proofs.Line.Indent

/-!
# Indents inside indents

An indent can be taken in two steps. Where the first stops inside a tab, what is left of the tab
counts for the second, and if that is enough, the second stops at the same byte
(`cut?_add_of_le`). Otherwise it goes on behind the tab, from the column at which the tab ends, with
the width that is still wanting (`cut?_add_of_lt`).
-/

set_option autoImplicit false

namespace MarkupText.Line

variable {line : Bytes} {start width more : Nat} {cut : Cut}

theorem cut?_add_of_none (short : cut? line start width = none) (more : Nat) :
    cut? line start (width + more) = none := by
  rw [← Option.not_isSome_iff_eq_none, isSome_cut?] at short ⊢
  omega

theorem cut?_add_of_le (found : cut? line start width = some cut) (le : more ≤ cut.overshoot) :
    cut? line start (width + more) = some ⟨cut.index, cut.overshoot - more⟩ := by
  induction line, start, width using indent_induction generalizing cut with
  | zero line start =>
    cases found
    obtain rfl : more = 0 := Nat.le_zero.1 le
    rfl
  | ink line start width ends pos =>
    rw [cut?_of_ends ends pos] at found
    cases found
  | inside b rest start width indent pos reached =>
    rw [cut?_cons_of_ge indent pos reached] at found
    cases found
    have within : width + more ≤ advance start b := Nat.add_le_of_le_sub' reached le
    rw [cut?_cons_of_ge indent (Nat.add_pos_left pos more) within, Nat.sub_add_eq]
  | beyond b rest start width indent further ih =>
    rw [cut?_cons_of_le indent further.le, Option.map_eq_some_iff] at found
    obtain ⟨next, there, rfl⟩ := found
    rw [cut?_cons_of_le indent (Nat.le_add_right_of_le further.le), Nat.sub_add_comm further.le,
      ih there le]
    rfl

theorem cut?_add_of_lt (found : cut? line start width = some cut) (lt : cut.overshoot < more) :
    cut? line start (width + more) =
      (cut? (line.drop cut.index) (start + width + cut.overshoot) (more - cut.overshoot)).map
        (Cut.behind cut.index) := by
  induction line, start, width using indent_induction generalizing cut with
  | zero line start =>
    cases found
    have stays : Cut.behind 0 = id := by
      funext cut
      rw [Cut.behind, Nat.zero_add, id]
    rw [stays, Option.map_id, id, Nat.zero_add]
    rfl
  | ink line start width ends pos =>
    rw [cut?_of_ends ends pos] at found
    cases found
  | inside b rest start width indent pos reached =>
    -- The first step stops behind this byte, and the second begins at the column there.
    rw [cut?_cons_of_ge indent pos reached] at found
    cases found
    have wanting : width + more - advance start b = more - (advance start b - width) := by omega
    have column : start + width + (advance start b - width) = start + advance start b := by omega
    rw [cut?_cons_of_le indent (Nat.sub_le_iff_le_add'.1 lt.le), wanting]
    simp only [column, List.drop_succ_cons, List.drop_zero]
  | beyond b rest start width indent further ih =>
    rw [cut?_cons_of_le indent further.le, Option.map_eq_some_iff] at found
    obtain ⟨next, there, rfl⟩ := found
    rw [cut?_cons_of_le indent (Nat.le_add_right_of_le further.le), Nat.sub_add_comm further.le,
      ih there lt, Option.map_map, behind_comp_behind]
    have column : start + advance start b + (width - advance start b) = start + width := by omega
    have dropped : (b :: rest).drop (1 + next.index) = rest.drop next.index := by
      rw [Nat.add_comm, List.drop_succ_cons]
    simp only [Cut.behind, column, dropped]

/-- Taking an indent in two steps gives what taking it at once gives: the second step has what the
first left over of a tab, and goes on behind it for the rest. Where the first finds too little
indentation, there is too little for both. -/
theorem cut?_add (line : Bytes) (start width more : Nat) :
    (∀ cut, cut? line start width = some cut →
        (more ≤ cut.overshoot →
          cut? line start (width + more) = some ⟨cut.index, cut.overshoot - more⟩) ∧
        (cut.overshoot < more →
          cut? line start (width + more) =
            (cut? (line.drop cut.index) (start + width + cut.overshoot)
              (more - cut.overshoot)).map (Cut.behind cut.index))) ∧
      (cut? line start width = none → cut? line start (width + more) = none) :=
  ⟨fun _ found => ⟨cut?_add_of_le found, cut?_add_of_lt found⟩,
    fun short => cut?_add_of_none short more⟩

/-- The first step stops inside the tab, with one column left over, and the second takes that
column and the space behind the tab. -/
theorem cut?_add_inside_tab :
    let line : Bytes := [Byte.space, Byte.space, Byte.tab, Byte.space, 0x78]
    cut? line 0 3 = some ⟨3, 1⟩ ∧ 1 < 2 ∧
      cut? line 0 5 = (cut? [Byte.space, 0x78] 4 1).map (Cut.behind 3) := by
  intro line
  have found : cut? line 0 3 = some ⟨3, 1⟩ := by decide
  exact ⟨found, Nat.one_lt_two, ((cut?_add line 0 3 2).1 _ found).2 Nat.one_lt_two⟩

end MarkupText.Line
