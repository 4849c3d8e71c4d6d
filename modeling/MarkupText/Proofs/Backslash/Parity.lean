import Mathlib.Data.List.TakeWhile
import MarkupText.Escape
import MarkupText.Proofs.Backslash

/-!
# Which backslashes are taken away

The scan pairs backslashes off from the left, two bytes at a time, while `escapes` looks at the
whole run of backslashes before an index. A byte in front leaves the later indices as they are
unless it makes such a run longer by one (`before_cons_of_all`), and a whole escape makes it longer
by two or not at all (`escapes_pair`). So the scan takes away the backslashes that escape and
nothing else (`unescape_eq_without`).
-/

set_option autoImplicit false

namespace MarkupText.Backslash

/-! ### Dropping bytes -/

theorem without_nil (drops : Nat → Bool) : without drops [] = [] := rfl

theorem without_cons (drops : Nat → Bool) (b : Byte) (rest : Bytes) :
    without drops (b :: rest) =
      if drops 0 then without (fun index => drops (index + 1)) rest
      else b :: without (fun index => drops (index + 1)) rest := by
  have behind : ((rest.zipIdx 1).filter fun entry => !drops entry.2).map Prod.fst =
      without (fun index => drops (index + 1)) rest := by
    rw [List.zipIdx_succ, List.filter_map, List.map_map, without]
    rfl
  rw [← behind, without, List.zipIdx_cons, List.filter_cons]
  by_cases first : drops 0 <;> simp [first]

/-! ### Runs of backslashes -/

theorem before_zero (text : Bytes) : before text 0 = 0 := rfl

/-- A byte in front makes a run longer if it is a backslash and the run reaches back to it. -/
theorem before_cons_of_all {rest : Bytes} {index : Nat}
    (all : ∀ c ∈ rest.take index, c = Byte.backslash) :
    before (Byte.backslash :: rest) (index + 1) = before rest index + 1 := by
  have run : (rest.take index).reverse.takeWhile (· = Byte.backslash) =
      (rest.take index).reverse := by
    rw [List.takeWhile_eq_self_iff]
    simpa using all
  rw [before, before, List.take_succ_cons, List.reverse_cons, List.takeWhile_append, run,
    if_pos rfl, List.length_append]
  simp

theorem before_cons_of_not {b : Byte} {rest : Bytes} {index : Nat}
    (other : ¬ (b = Byte.backslash ∧ ∀ c ∈ rest.take index, c = Byte.backslash)) :
    before (b :: rest) (index + 1) = before rest index := by
  rw [before, before, List.take_succ_cons, List.reverse_cons, List.takeWhile_append]
  split_ifs with whole
  · have run := (List.takeWhile_prefix (· = Byte.backslash)).eq_of_length whole
    rw [List.takeWhile_eq_self_iff] at run
    have first : b ≠ Byte.backslash := fun same => other ⟨same, by simpa using run⟩
    simp [first, whole]
  · rfl

theorem isEscape_cons (b : Byte) (rest : Bytes) (index : Nat) :
    isEscape (b :: rest) (index + 1) = isEscape rest index := by
  simp [isEscape]

/-- Behind a byte that begins no escape, the same backslashes escape as without it. -/
theorem escapes_cons {b : Byte} {rest : Bytes}
    (free : b = Byte.backslash → ∀ next, rest.head? = some next → ¬ next.isPunctuation)
    (index : Nat) : escapes (b :: rest) (index + 1) = escapes rest index := by
  by_cases first : b = Byte.backslash ∧ ∀ c ∈ rest.take index, c = Byte.backslash
  · -- a backslash is punctuation, so the run is empty and no other backslash goes on from it
    obtain ⟨backslash, all⟩ := first
    have none : isEscape rest index = false := by
      cases rest with
      | nil => simp [isEscape]
      | cons c rest =>
        have other : c ≠ Byte.backslash := by
          rintro rfl
          exact free backslash _ rfl (by decide)
        cases index with
        | zero =>
          rw [← Bool.not_eq_true, isEscape_iff]
          rintro ⟨next, behind, cut, -⟩
          exact other (List.cons.inj cut).1
        | succ index => exact absurd (all c List.mem_cons_self) other
    rw [escapes, escapes, isEscape_cons, none, Bool.false_and, Bool.false_and]
  · rw [escapes, escapes, isEscape_cons, before_cons_of_not first]

/-- Behind an escape, the same backslashes escape as without it: if the escaped byte is a backslash,
the runs that reach back to it are longer by two. -/
theorem escapes_pair (next : Byte) (rest : Bytes) (index : Nat) :
    escapes (Byte.backslash :: next :: rest) (index + 2) = escapes rest index := by
  have reach : (∀ c ∈ (next :: rest).take (index + 1), c = Byte.backslash) ↔
      next = Byte.backslash ∧ ∀ c ∈ rest.take index, c = Byte.backslash := by
    rw [List.take_succ_cons, List.forall_mem_cons]
  have parity :
      before (Byte.backslash :: next :: rest) (index + 2) % 2 = before rest index % 2 := by
    by_cases both : next = Byte.backslash ∧ ∀ c ∈ rest.take index, c = Byte.backslash
    · obtain ⟨rfl, all⟩ := both
      rw [before_cons_of_all (reach.2 ⟨rfl, all⟩), before_cons_of_all all]
      omega
    · rw [before_cons_of_not fun h => both (reach.1 h.2), before_cons_of_not both]
  rw [escapes, escapes, isEscape_cons, isEscape_cons, parity]

/-- An escape begins with a backslash that escapes, and the byte behind that one does not. -/
theorem escapes_zero {next : Byte} (punctuation : next.isPunctuation) (rest : Bytes) :
    escapes (Byte.backslash :: next :: rest) 0 = true ∧
      escapes (Byte.backslash :: next :: rest) 1 = false := by
  constructor
  · have escape : isEscape (Byte.backslash :: next :: rest) 0 = true :=
      isEscape_iff.2 ⟨next, rest, rfl, punctuation⟩
    rw [escapes, escape, before_zero]
    rfl
  · by_cases backslash : next = Byte.backslash
    · have one : before (Byte.backslash :: next :: rest) (0 + 1) = 1 :=
        before_cons_of_all (by simp)
      rw [escapes, one]
      simp
    · have none : ¬ isEscape (Byte.backslash :: next :: rest) (0 + 1) := by
        rw [isEscape_cons, isEscape_iff]
        rintro ⟨last, behind, cut, -⟩
        exact backslash (List.cons.inj cut).1
      rw [escapes, Bool.eq_false_iff.2 none, Bool.false_and]

/-! ### The scan -/

theorem output_eq_without (text : Bytes) : rule.output text = without (escapes text) text := by
  induction text using Rule.pieces.induct rule with
  | case1 => rw [Rule.output_nil, without_nil]
  | case2 b rest more keep ih =>
    cases rule_decides keep with
    | keep free =>
      have shift : (fun index => escapes (b :: rest) (index + 1)) = escapes rest :=
        funext (escapes_cons free)
      have first : escapes (b :: rest) 0 = false := by
        have none : ¬ isEscape (b :: rest) 0 := by
          rw [isEscape_iff]
          rintro ⟨next, behind, cut, punctuation⟩
          obtain ⟨backslash, rfl⟩ := List.cons.inj cut
          exact free backslash next rfl punctuation
        rw [escapes, Bool.eq_false_iff.2 none, Bool.false_and]
      rw [Rule.output_of_keep keep, without_cons, shift, first]
      rw [List.drop_zero] at ih
      simp [ih]
  | case3 b rest more written replace ih =>
    cases rule_decides replace with
    | @escape next rest punctuation =>
      have shift : (fun index => escapes (Byte.backslash :: next :: rest) (index + 1 + 1)) =
          escapes rest := funext (escapes_pair next rest)
      obtain ⟨first, second⟩ := escapes_zero punctuation rest
      rw [Rule.output_of_replace replace, without_cons, without_cons, shift, first]
      rw [List.drop_succ_cons, List.drop_zero] at ih ⊢
      simp [ih, second]

/-- Exactly those backslashes are taken away that have punctuation behind them and an even number of
backslashes right before them. The text is shared exactly if no backslash has punctuation behind it,
since the first one of a run is not escaped. -/
theorem unescape_eq_without (text : Bytes) :
    (unescape text).bytes = without (escapes text) text ∧
      ((unescape text).isCopied = false ↔ ∀ index, isEscape text index = false) := by
  constructor
  · rw [unescape, Rule.bytes_replaceAll, output_eq_without]
  · rw [unescape, Rule.isCopied_replaceAll, ← Bool.not_eq_true, replaces_iff_isEscape, not_exists]
    simp only [Bool.not_eq_true]

end MarkupText.Backslash
