import Mathlib.Data.FinEnum
import Mathlib.Data.List.TakeWhile
import MarkupText.Space

/-!
# White space at the ends

Trimming cuts off bytes of its set at both ends (`trim_cut`), and what it leaves has none there
(`isTight_trim`). These two facts determine it (`trim_eq`).
-/

set_option autoImplicit false

namespace MarkupText.Space

variable {set text : Bytes}

/-! ### The wide set -/

theorem le_of_mem_trimmed {b : Byte} (mem : b ∈ trimmed) : b.toNat ≤ 0x20 := by
  revert b
  decide +kernel

theorem isAscii_of_mem_trimmed {b : Byte} (mem : b ∈ trimmed) : b.isAscii := by
  revert b
  decide +kernel

theorem toLower_of_mem_trimmed {b : Byte} (mem : b ∈ trimmed) : b.toLower = b := by
  revert b
  decide +kernel

theorem mem_trimmed_of_isSpace {b : Byte} (space : b.isSpace) : b ∈ trimmed := by
  revert b
  decide +kernel

/-! ### At one end -/

theorem trimLeftOf_cut (set text : Bytes) :
    ∃ front, text = front ++ trimLeftOf set text ∧ ∀ b ∈ front, b ∈ set :=
  ⟨text.takeWhile set.contains, List.takeWhile_append_dropWhile.symm,
    fun _ mem => List.contains_iff_mem.1 (List.mem_takeWhile_imp mem)⟩

theorem trimRightOf_cut (set text : Bytes) :
    ∃ behind, text = trimRightOf set text ++ behind ∧ ∀ b ∈ behind, b ∈ set := by
  obtain ⟨front, cut, inside⟩ := trimLeftOf_cut set text.reverse
  refine ⟨front.reverse, ?_, fun b mem => inside b (List.mem_reverse.1 mem)⟩
  have back := congrArg List.reverse cut
  rwa [List.reverse_reverse, List.reverse_append] at back

theorem trimLeftOf_append {front : Bytes} (h : ∀ b ∈ front, b ∈ set) (text : Bytes) :
    trimLeftOf set (front ++ text) = trimLeftOf set text :=
  List.dropWhile_append_of_pos fun b mem => List.contains_iff_mem.2 (h b mem)

theorem trimRightOf_append {behind : Bytes} (h : ∀ b ∈ behind, b ∈ set) (text : Bytes) :
    trimRightOf set (text ++ behind) = trimRightOf set text := by
  have front : ∀ b ∈ behind.reverse, b ∈ set := fun b mem => h b (List.mem_reverse.1 mem)
  have same := trimLeftOf_append front text.reverse
  rw [← List.reverse_append] at same
  exact congrArg List.reverse same

theorem not_mem_of_head?_trimLeftOf {b : Byte} (h : (trimLeftOf set text).head? = some b) :
    b ∉ set := by
  have stop := List.head?_dropWhile_not set.contains text
  rw [show (text.dropWhile set.contains).head? = some b from h] at stop
  exact fun mem => absurd (List.contains_iff_mem.2 mem) (by rw [stop]; decide)

theorem not_mem_of_getLast?_trimRightOf {b : Byte}
    (h : (trimRightOf set text).getLast? = some b) : b ∉ set := by
  rw [trimRightOf, List.getLast?_reverse] at h
  exact not_mem_of_head?_trimLeftOf h

theorem trimLeftOf_eq_self (h : ∀ b, text.head? = some b → b ∉ set) :
    trimLeftOf set text = text := by
  cases text with
  | nil => rfl
  | cons b rest =>
    exact List.dropWhile_cons_of_neg fun inside => h b rfl (List.contains_iff_mem.1 inside)

theorem trimRightOf_eq_self (h : ∀ b, text.getLast? = some b → b ∉ set) :
    trimRightOf set text = text := by
  have same : trimLeftOf set text.reverse = text.reverse :=
    trimLeftOf_eq_self fun b read => h b (List.head?_reverse.symm.trans read)
  exact (congrArg List.reverse same).trans text.reverse_reverse

/-! ### At both ends -/

/-- A text without white space at its ends. -/
def trim (text : Bytes) : Bytes := trimRight (trimLeft text)

/-- Whether neither end of a text is a byte of a set. -/
structure IsTight (set text : Bytes) : Prop where
  first : ∀ b, text.head? = some b → b ∉ set
  last : ∀ b, text.getLast? = some b → b ∉ set

theorem trim_cut (text : Bytes) :
    ∃ front behind, text = front ++ trim text ++ behind ∧
      (∀ b ∈ front, b ∈ trimmed) ∧ ∀ b ∈ behind, b ∈ trimmed := by
  obtain ⟨front, cut, inFront⟩ := trimLeftOf_cut trimmed text
  obtain ⟨behind, rest, inBehind⟩ := trimRightOf_cut trimmed (trimLeftOf trimmed text)
  refine ⟨front, behind, ?_, inFront, inBehind⟩
  rw [List.append_assoc]
  exact cut.trans (congrArg (front ++ ·) rest)

theorem isTight_trim (text : Bytes) : IsTight trimmed (trim text) := by
  refine ⟨fun b read => ?_, fun b read => not_mem_of_getLast?_trimRightOf read⟩
  obtain ⟨behind, rest, -⟩ := trimRightOf_cut trimmed (trimLeft text)
  have begins : (trimLeft text).head? = some b := by
    rw [rest, List.head?_append]
    exact congrArg (Option.or · _) read
  exact not_mem_of_head?_trimLeftOf begins

/-- Trimming leaves what is tight between two stretches of white space. -/
theorem trim_eq {front core behind : Bytes} (tight : IsTight trimmed core)
    (inFront : ∀ b ∈ front, b ∈ trimmed) (inBehind : ∀ b ∈ behind, b ∈ trimmed) :
    trim (front ++ core ++ behind) = core := by
  rw [trim, trimLeft, List.append_assoc, trimLeftOf_append inFront]
  cases core with
  | nil =>
    rw [List.nil_append, ← List.append_nil behind, trimLeftOf_append inBehind]
    rfl
  | cons b rest =>
    have stays : trimLeftOf trimmed (b :: rest ++ behind) = b :: rest ++ behind :=
      trimLeftOf_eq_self tight.first
    rw [stays, trimRight, trimRightOf_append inBehind, trimRightOf_eq_self tight.last]

/-- White space around a text does not show once it is trimmed. -/
theorem trim_append {front behind : Bytes} (inFront : ∀ b ∈ front, b ∈ trimmed)
    (inBehind : ∀ b ∈ behind, b ∈ trimmed) (text : Bytes) :
    trim (front ++ text ++ behind) = trim text := by
  obtain ⟨first, last, cut, inFirst, inLast⟩ := trim_cut text
  have whole : front ++ text ++ behind = (front ++ first) ++ trim text ++ (last ++ behind) := by
    conv_lhs => rw [cut]
    simp only [List.append_assoc]
  rw [whole]
  apply trim_eq (isTight_trim text)
  · exact List.forall_mem_append.2 ⟨inFront, inFirst⟩
  · exact List.forall_mem_append.2 ⟨inLast, inBehind⟩

/-- White space inside a text is trimmed away or stays as it is, and which of the two does not hang
on how it looks. -/
theorem trim_append_run (front behind : Bytes) :
    (∃ core, ∀ run, (∀ b ∈ run, b ∈ trimmed) → trim (front ++ run ++ behind) = core) ∨
      ∃ left right, ∀ run, trim (front ++ run ++ behind) = left ++ run ++ right := by
  obtain ⟨first, cut, inFirst⟩ := trimLeftOf_cut trimmed front
  obtain ⟨last, rest, inLast⟩ := trimRightOf_cut trimmed behind
  by_cases noLeft : trimLeftOf trimmed front = []
  · refine .inl ⟨trim behind, fun run inside => ?_⟩
    rw [noLeft, List.append_nil] at cut
    have around : ∀ b ∈ front ++ run, b ∈ trimmed :=
      List.forall_mem_append.2 ⟨cut ▸ inFirst, inside⟩
    rw [← List.append_nil (front ++ run ++ behind)]
    exact trim_append around (List.forall_mem_nil _) behind
  · by_cases noRight : trimRightOf trimmed behind = []
    · refine .inl ⟨trim front, fun run inside => ?_⟩
      rw [noRight, List.nil_append] at rest
      have around : ∀ b ∈ run ++ behind, b ∈ trimmed :=
        List.forall_mem_append.2 ⟨inside, rest ▸ inLast⟩
      rw [List.append_assoc]
      exact trim_append (List.forall_mem_nil _) around front
    · refine .inr ⟨trimLeftOf trimmed front, trimRightOf trimmed behind, fun run => ?_⟩
      have whole : front ++ run ++ behind =
          first ++ (trimLeftOf trimmed front ++ run ++ trimRightOf trimmed behind) ++ last := by
        conv_lhs => rw [cut, rest]
        simp only [List.append_assoc]
      rw [whole]
      refine trim_eq ⟨fun b read => ?_, fun b read => ?_⟩ inFirst inLast
      · rw [List.append_assoc, List.head?_append_of_ne_nil _ noLeft] at read
        exact not_mem_of_head?_trimLeftOf read
      · rw [List.getLast?_append_of_ne_nil _ noRight] at read
        exact not_mem_of_getLast?_trimRightOf read

/-! ### Case -/

theorem contains_toLower (b : Byte) : trimmed.contains b.toLower = trimmed.contains b := by
  revert b
  decide +kernel

theorem trimLeft_map_toLower (text : Bytes) :
    trimLeft (text.map Byte.toLower) = (trimLeft text).map Byte.toLower := by
  have same : trimmed.contains ∘ Byte.toLower = trimmed.contains := funext contains_toLower
  unfold trimLeft trimLeftOf
  rw [List.dropWhile_map, same]

theorem trimRight_map_toLower (text : Bytes) :
    trimRight (text.map Byte.toLower) = (trimRight text).map Byte.toLower := by
  calc trimRight (text.map Byte.toLower)
      = (trimLeft (text.reverse.map Byte.toLower)).reverse := by rw [List.map_reverse]; rfl
    _ = ((trimLeft text.reverse).map Byte.toLower).reverse := by rw [trimLeft_map_toLower]
    _ = (trimRight text).map Byte.toLower := List.map_reverse.symm

theorem trim_map_toLower (text : Bytes) :
    trim (text.map Byte.toLower) = (trim text).map Byte.toLower := by
  rw [trim, trimLeft_map_toLower, trimRight_map_toLower, trim]

end MarkupText.Space
