import Mathlib.Data.List.Induction
import MarkupText.Line.Indent

/-!
# Columns byte by byte

How far a byte advances depends on the column at which it stands, and on nothing else of what is
before it (`advance`). So the columns of two stretches are those of the first and those of the
second from where the first ends (`columns_append`). Each tab ends at a tab stop of the whole line
(`tabStop_dvd_columns`).
-/

set_option autoImplicit false

namespace MarkupText.Line

variable {start column : Nat} {b : Byte}

/-- The width of a byte that stands at a column. -/
def advance (column : Nat) (b : Byte) : Nat := if b = Byte.tab then tabAdvance column else 1

theorem tabStop_dvd_add_tabAdvance (column : Nat) : tabStop ∣ column + tabAdvance column := by
  simp only [tabAdvance, tabStop]
  omega

theorem advance_pos (column : Nat) (b : Byte) : 0 < advance column b := by
  unfold advance tabAdvance tabStop
  split <;> omega

theorem advance_le_tabStop (column : Nat) (b : Byte) : advance column b ≤ tabStop := by
  unfold advance tabAdvance tabStop
  split <;> omega

theorem eq_tab_of_one_lt_advance (wide : 1 < advance column b) : b = Byte.tab := by
  by_contra other
  rw [advance, if_neg other] at wide
  exact absurd wide (Nat.lt_irrefl 1)

theorem columns_nil (start : Nat) : columns start [] = 0 := rfl

theorem columns_append_singleton (start : Nat) (bytes : Bytes) (b : Byte) :
    columns start (bytes ++ [b]) =
      columns start bytes + advance (start + columns start bytes) b := by
  unfold columns advance
  rw [List.foldl_append, List.foldl_cons, List.foldl_nil]
  split <;> rfl

theorem columns_append (start : Nat) (front rest : Bytes) :
    columns start (front ++ rest) =
      columns start front + columns (start + columns start front) rest := by
  induction rest using List.reverseRecOn with
  | nil => rw [List.append_nil, columns_nil, Nat.add_zero]
  | append_singleton rest b ih =>
    rw [← List.append_assoc, columns_append_singleton, columns_append_singleton, ih]
    simp only [Nat.add_assoc]

theorem columns_cons (start : Nat) (b : Byte) (rest : Bytes) :
    columns start (b :: rest) = advance start b + columns (start + advance start b) rest := by
  have first : columns start [b] = advance start b := by
    simpa [columns_nil] using columns_append_singleton start [] b
  have whole := columns_append start [b] rest
  rwa [first] at whole

theorem columns_take_succ {text : Bytes} {index : Nat} (read : text[index]? = some b) :
    columns start (text.take (index + 1)) = columns start (text.take index) +
      advance (start + columns start (text.take index)) b := by
  rw [List.take_add_one, read, Option.toList_some, columns_append_singleton]

/-- Behind a tab there is always a tab stop. -/
theorem tabStop_dvd_columns {text : Bytes} {index : Nat} (tab : text[index]? = some Byte.tab) :
    tabStop ∣ start + columns start (text.take (index + 1)) := by
  rw [columns_take_succ tab, advance, if_pos rfl, ← Nat.add_assoc]
  exact tabStop_dvd_add_tabAdvance _

end MarkupText.Line
