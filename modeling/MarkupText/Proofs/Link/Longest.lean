import Mathlib.Data.List.TakeWhile
import MarkupText.Run

/-!
# The longest prefix of a text in a language

A finder tells how far the longest prefix of a text reaches that is in its language, if any prefix
is (`Finds`). Both kinds of links have a run of bytes of a class in front, a mark that is not of the
class, and a text of another language behind it (`Marked`). As the mark ends the run, there is one
way to read the front of a text like that, and the longest prefix is the one with the longest prefix
of what stands behind the mark (`IsLongest.marked`).
-/

set_option autoImplicit false

namespace MarkupText

variable {language behind starts : Bytes → Prop} {accepts : Byte → Bool} {mark : Byte}
  {text front rest run : Bytes}

/-- A prefix of a text that is in a language, and no shorter than any other such prefix. -/
structure IsLongest (language : Bytes → Prop) (text front : Bytes) : Prop where
  begins : front <+: text
  belongs : language front
  longest : ∀ other, other <+: text → language other → other.length ≤ front.length

/-- Whether an answer gives the length of the longest prefix in a language, and is `none` where
there is no such prefix. -/
def Finds (language : Bytes → Prop) (text : Bytes) : Option Nat → Prop
  | none => ∀ front, front <+: text → ¬ language front
  | some size => ∃ front, IsLongest language text front ∧ front.length = size

theorem Finds.eq_none_iff {answer : Option Nat} (h : Finds language text answer) :
    answer = none ↔ ∀ front, front <+: text → ¬ language front := by
  cases answer with
  | none => exact iff_of_true rfl h
  | some size =>
    obtain ⟨front, longest, -⟩ := h
    exact iff_of_false (Option.some_ne_none size)
      fun nowhere => nowhere front longest.begins longest.belongs

theorem Finds.eq_some_iff {answer : Option Nat} (h : Finds language text answer) {size : Nat} :
    answer = some size ↔ ∃ front, IsLongest language text front ∧ front.length = size := by
  cases answer with
  | none =>
    refine iff_of_false (Option.some_ne_none size).symm ?_
    rintro ⟨front, longest, -⟩
    exact h front longest.begins longest.belongs
  | some found =>
    obtain ⟨front, longest, rfl⟩ := h
    rw [Option.some_inj]
    constructor
    · intro same
      exact ⟨front, longest, same⟩
    · rintro ⟨other, further, rfl⟩
      exact Nat.le_antisymm (further.longest front longest.begins longest.belongs)
        (longest.longest other further.begins further.belongs)

theorem isLongest_takeWhile (accepts : Byte → Bool) (text : Bytes) :
    IsLongest (fun run => ∀ b ∈ run, accepts b) text (text.takeWhile accepts) :=
  ⟨List.takeWhile_prefix accepts, fun _ mem => List.mem_takeWhile_imp mem,
    fun _ begins inside => (prefix_takeWhile begins inside).length_le⟩

/-! ### Marks -/

/-- The texts that are a run of bytes of a class, a mark, and a text of another language. -/
def Marked (accepts : Byte → Bool) (mark : Byte) (starts behind : Bytes → Prop) (text : Bytes) :
    Prop :=
  ∃ run rest, text = run ++ mark :: rest ∧ starts run ∧ (∀ b ∈ run, accepts b) ∧ behind rest

theorem IsLongest.marked (h : IsLongest behind rest front) (stops : ¬ accepts mark)
    (start : starts run) (inside : ∀ b ∈ run, accepts b) :
    IsLongest (Marked accepts mark starts behind) (run ++ mark :: rest) (run ++ mark :: front) := by
  refine ⟨?_, ⟨run, front, rfl, start, inside, h.belongs⟩, ?_⟩
  · exact (List.prefix_append_right_inj run).2 (List.cons_prefix_cons.2 ⟨rfl, h.begins⟩)
  · rintro _ ⟨tail, whole⟩ ⟨other, more, rfl, -, within, further⟩
    rw [List.append_assoc, List.cons_append] at whole
    obtain ⟨rfl, cut⟩ := run_unique accepts stops within inside whole
    have le := h.longest more ⟨tail, cut⟩ further
    simp only [List.length_append, List.length_cons]
    omega

end MarkupText
