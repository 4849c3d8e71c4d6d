import MarkupText.Byte

/-!
# Runs of bytes

A scanner reads on for as long as a class accepts the bytes (`readRun`). The longest run at the
front of a text is told by what ends it: the run before a byte that is not of the class is all that
the class accepts there (`run_unique`), and every text is a run and what ends it (`exists_run`).
-/

set_option autoImplicit false

namespace MarkupText

/-- Reads on from `start` for as long as a class accepts the bytes, but not beyond `stop` or the
end of the text. Gives the index at which it stopped and whether it read anything. Where `start`
lies behind the last index it may reach, it stops right there. -/
def readRun (text : Bytes) (start stop : Nat) (accepts : Byte → Bool) : Nat × Bool :=
  let stop := min stop text.length
  let start := min start stop
  let run := ((text.take stop).drop start).takeWhile accepts
  (start + run.length, !run.isEmpty)

/-! ### The run at the front of a text -/

variable {accepts : Byte → Bool}

/-- Whether a run of accepted bytes does not go on with a text. -/
def Ends (accepts : Byte → Bool) (rest : Bytes) : Prop :=
  ∀ next, rest.head? = some next → ¬ accepts next

theorem ends_nil : Ends accepts [] := by
  rintro _ ⟨⟩

theorem ends_cons {b : Byte} (other : ¬ accepts b) (rest : Bytes) : Ends accepts (b :: rest) := by
  rintro _ ⟨⟩
  exact other

theorem takeWhile_append_of_ends {run rest : Bytes} (inside : ∀ b ∈ run, accepts b)
    (ends : Ends accepts rest) : (run ++ rest).takeWhile accepts = run := by
  rw [List.takeWhile_append_of_pos inside]
  cases rest with
  | nil => rw [List.takeWhile_nil, List.append_nil]
  | cons next rest => rw [List.takeWhile_cons_of_neg (ends next rfl), List.append_nil]

theorem dropWhile_append_of_ends {run rest : Bytes} (inside : ∀ b ∈ run, accepts b)
    (ends : Ends accepts rest) : (run ++ rest).dropWhile accepts = rest := by
  rw [List.dropWhile_append_of_pos inside]
  cases rest with
  | nil => rfl
  | cons next rest => exact List.dropWhile_cons_of_neg (ends next rfl)

/-- No run of accepted bytes at the front is longer. -/
theorem prefix_takeWhile {front text : Bytes} (begins : front <+: text)
    (inside : ∀ b ∈ front, accepts b) : front <+: text.takeWhile accepts := by
  obtain ⟨rest, rfl⟩ := begins
  rw [List.takeWhile_append_of_pos inside]
  exact List.prefix_append _ _

/-- The run in front of a byte that ends it is all that the class accepts there. -/
theorem run_unique {run other rest behind : Bytes} {stop : Byte} (accepts : Byte → Bool)
    (ends : ¬ accepts stop) (inside : ∀ b ∈ run, accepts b) (within : ∀ b ∈ other, accepts b)
    (same : run ++ stop :: rest = other ++ stop :: behind) : run = other ∧ rest = behind := by
  have runs := congrArg (List.takeWhile accepts) same
  rw [takeWhile_append_of_ends inside (ends_cons ends rest),
    takeWhile_append_of_ends within (ends_cons ends behind)] at runs
  subst runs
  exact ⟨rfl, (List.cons.inj (List.append_cancel_left same)).2⟩

/-- Every text is a run and what ends it. -/
theorem exists_run (accepts : Byte → Bool) (text : Bytes) :
    ∃ run rest, text = run ++ rest ∧ (∀ b ∈ run, accepts b) ∧ Ends accepts rest := by
  refine ⟨text.takeWhile accepts, text.dropWhile accepts, List.takeWhile_append_dropWhile.symm,
    List.all_eq_true.1 List.all_takeWhile, fun next read => ?_⟩
  have stop := List.head?_dropWhile_not accepts text
  rw [read] at stop
  exact Bool.eq_false_iff.1 stop

end MarkupText
