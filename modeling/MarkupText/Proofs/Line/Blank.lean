import MarkupText.Space
import MarkupText.Proofs.Line.Bytewise

/-!
# Blank lines

The first ink of a line is where its indentation ends (`indentation_of_firstInk?`), and a line
without ink has nothing behind its indentation but a line feed. So a line without ink is blank. But
a carriage return separates words and is ink all the same: a blank line has no ink exactly if it has
no carriage return (`firstInk?_eq_none_iff`).
-/

set_option autoImplicit false

namespace MarkupText.Line

variable {text : Bytes} {b : Byte}

/-- Whether a text is one line: no byte of it is a line feed, except the last one. -/
def IsLine (text : Bytes) : Prop := Byte.lineFeed ∉ text.dropLast

theorem isSpace_iff : b.isSpace ↔ isIndent b ∨ b = Byte.lineFeed ∨ b = Byte.carriageReturn := by
  simp only [Byte.isSpace, isIndent, Bool.or_eq_true, decide_eq_true_eq, or_assoc]

theorem isBlank_append (front rest : Bytes) :
    Space.isBlank (front ++ rest) ↔ (∀ b ∈ front, b.isSpace) ∧ Space.isBlank rest := by
  rw [Space.isBlank, List.all_append, Bool.and_eq_true, List.all_eq_true, Space.isBlank]

/-- In a line, nothing follows a line feed. -/
theorem IsLine.eq_nil {front rest : Bytes} (line : IsLine (front ++ Byte.lineFeed :: rest)) :
    rest = [] := by
  by_contra more
  apply line
  rw [List.dropLast_append_cons, List.dropLast_cons_of_ne_nil more]
  exact List.mem_append_right front List.mem_cons_self

/-! ### Ink -/

/-- The first ink is the byte behind the indentation, unless that is a line feed. -/
theorem firstInk?_append {front rest : Bytes} (indent : ∀ b ∈ front, isIndent b)
    (ends : Ends isIndent rest) :
    firstInk? (front ++ rest) =
      rest.head?.bind fun b => if b = Byte.lineFeed then none else some front.length := by
  unfold firstInk?
  simp only [takeWhile_append_of_ends indent ends, List.drop_left]
  cases rest <;> rfl

/-- The indentation reaches up to the first ink. -/
theorem indentation_of_firstInk? {index : Nat} (found : firstInk? text = some index)
    (start : Nat) : (indentation text start).bytes = index := by
  obtain ⟨front, rest, rfl, indent, ends⟩ := exists_run isIndent text
  rw [firstInk?_append indent ends, Option.bind_eq_some_iff] at found
  obtain ⟨b, -, ink⟩ := found
  rw [indentation_append indent, indentation_of_ends ends, Nat.add_zero]
  split_ifs at ink
  exact Option.some.inj ink

/-- A line has no ink exactly if it is blank without a carriage return. -/
theorem firstInk?_eq_none_iff (line : IsLine text) :
    firstInk? text = none ↔ Space.isBlank text ∧ Byte.carriageReturn ∉ text := by
  obtain ⟨front, rest, rfl, indent, ends⟩ := exists_run isIndent text
  have blank : ∀ b ∈ front, b.isSpace := fun b mem => isSpace_iff.2 (.inl (indent b mem))
  have noReturn : Byte.carriageReturn ∉ front := fun mem =>
    absurd (indent _ mem) (by decide)
  rw [firstInk?_append indent ends, isBlank_append, List.mem_append, not_or]
  cases rest with
  | nil => exact iff_of_true rfl ⟨⟨blank, rfl⟩, noReturn, List.not_mem_nil⟩
  | cons b more =>
    by_cases feed : b = Byte.lineFeed
    · subst feed
      obtain rfl := line.eq_nil
      exact iff_of_true rfl ⟨⟨blank, rfl⟩, noReturn, by decide⟩
    · rw [List.head?_cons, Option.bind_some, if_neg feed]
      refine iff_of_false (Option.some_ne_none _) fun ⟨⟨_, others⟩, _, absent⟩ => absent ?_
      -- A byte of white space that is no indentation and no line feed is a carriage return.
      have space : b.isSpace := List.all_eq_true.1 others b List.mem_cons_self
      obtain indented | same | same := isSpace_iff.1 space
      · exact absurd indented (ends b rfl)
      · exact absurd same feed
      · exact same ▸ List.mem_cons_self

/-- That a line has no ink says the same as that it is blank, unless it is blank with a carriage
return. The first ink is where the indentation ends, from whatever column on it is measured. -/
theorem firstInk?_agrees_iff (line : IsLine text) :
    ((firstInk? text = none ↔ Space.isBlank text) ↔
        ¬ (Space.isBlank text ∧ Byte.carriageReturn ∈ text)) ∧
      ∀ index, firstInk? text = some index → ∀ start, (indentation text start).bytes = index := by
  refine ⟨?_, fun _ => indentation_of_firstInk?⟩
  rw [firstInk?_eq_none_iff line]
  tauto

/-- A line of a space and a tab, with ink behind them. -/
theorem firstInk?_agrees_letter :
    let text : Bytes := [Byte.space, Byte.tab, 0x78, Byte.lineFeed]
    IsLine text ∧ (firstInk? text = none ↔ Space.isBlank text) ∧
      (indentation text 3).bytes = 2 := by
  intro text
  have line : IsLine text := by unfold IsLine; decide
  obtain ⟨agrees, ends⟩ := firstInk?_agrees_iff line
  exact ⟨line, agrees.2 (by decide), ends 2 rfl 3⟩

/-- A line that is empty but for its ending is blank, and yet it has ink. -/
theorem firstInk?_carriageReturn :
    let text : Bytes := [Byte.carriageReturn, Byte.lineFeed]
    IsLine text ∧ firstInk? text = some 0 ∧ Space.isBlank text ∧
      ¬ (firstInk? text = none ↔ Space.isBlank text) := by
  intro text
  have line : IsLine text := by unfold IsLine; decide
  exact ⟨line, by decide, by decide, by decide⟩

end MarkupText.Line
