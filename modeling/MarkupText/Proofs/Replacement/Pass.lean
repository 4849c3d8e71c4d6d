import MarkupText.Replacement.Piece

/-!
# Rules as passes

What a rule does to a whole text, for passes that are run one behind the other. A pass that
replaces nothing gives its text back shared (`replaceAll_of_not_replaces`), and so the text that
comes out of several passes is what each of them makes of the text before it
(`bytes_andThen_replaceAll`). A pass asks its rule at one place after the other, from left to right
(`pairwise_stops`), and each time about the byte that stands at that place (`read_of_mem_stops`).
-/

set_option autoImplicit false

namespace MarkupText.Rule

variable {rule : Rule}

/-- A text in which nothing is replaced is not copied. -/
theorem replaceAll_of_not_replaces {text : Bytes} (h : rule.replaces text = false) :
    rule.replaceAll text = .shared text := by
  have copied : (rule.replaceAll text).isCopied = _ := isCopied_replaceAll text
  have bytes : (rule.replaceAll text).bytes = _ := bytes_replaceAll text
  rw [h] at copied
  rw [output_of_not_replaces h] at bytes
  cases result : rule.replaceAll text with
  | shared source =>
    rw [result] at bytes
    exact congrArg Buffer.shared bytes
  | copied content => simp [result] at copied

/-- Nothing is replaced where the rule keeps whatever it can be asked about. -/
theorem not_replaces_of_keeps {text : Bytes}
    (keeps : ∀ b rest, b :: rest <:+ text → ∃ more, rule b rest = .keep more) :
    rule.replaces text = false := by
  induction text using pieces.induct rule with
  | case1 => exact replaces_nil
  | case2 b rest more h ih =>
    rw [replaces_of_keep h]
    refine ih fun c behind suffix => keeps c behind ?_
    exact suffix.trans ((List.drop_suffix more rest).trans (List.suffix_cons b rest))
  | case3 b rest more written h ih =>
    obtain ⟨kept, keep⟩ := keeps b rest (List.suffix_refl _)
    rw [h] at keep
    cases keep

/-- A stretch of bytes that are kept whatever follows them is passed as it stands. -/
theorem output_append_of_keeps {span : Bytes}
    (keeps : ∀ b ∈ span, ∀ rest, rule b rest = .keep 0) (rest : Bytes) :
    rule.output (span ++ rest) = span ++ rule.output rest := by
  induction span with
  | nil => rfl
  | cons b span ih =>
    obtain ⟨first, others⟩ := List.forall_mem_cons.1 keeps
    rw [List.cons_append, output_of_keep (first (span ++ rest)), List.take_zero, List.drop_zero,
      ih others]
    rfl

theorem replaces_append_of_keeps {span : Bytes}
    (keeps : ∀ b ∈ span, ∀ rest, rule b rest = .keep 0) (rest : Bytes) :
    rule.replaces (span ++ rest) = rule.replaces rest := by
  induction span with
  | nil => rfl
  | cons b span ih =>
    obtain ⟨first, others⟩ := List.forall_mem_cons.1 keeps
    rw [List.cons_append, replaces_of_keep (first (span ++ rest)), List.drop_zero, ih others]

/-- A last byte of a kind that is never replaced stays the last one. -/
theorem getLast?_output {P : Byte → Prop} {text : Bytes} {c : Byte}
    (kept : ∀ b rest more written, rule b rest = .replace more written →
      ∀ d ∈ b :: rest.take more, ¬ P d)
    (read : text.getLast? = some c) (last : P c) : (rule.output text).getLast? = some c := by
  induction text using pieces.induct rule with
  | case1 => cases read
  | case2 b rest more keep ih =>
    rw [← List.take_append_drop more rest, ← List.cons_append, List.getLast?_append] at read
    rw [output_of_keep keep, List.getLast?_append]
    cases behind : (rest.drop more).getLast? with
    | none =>
      rw [behind] at read
      rwa [List.getLast?_eq_none_iff.1 behind, output_nil]
    | some d =>
      rw [behind, Option.some_or] at read
      rw [ih (behind.trans read), Option.some_or]
  | case3 b rest more written replace ih =>
    rw [← List.take_append_drop more rest, ← List.cons_append, List.getLast?_append] at read
    rw [output_of_replace replace, List.getLast?_append]
    cases behind : (rest.drop more).getLast? with
    | none =>
      rw [behind, Option.none_or] at read
      exact absurd last (kept b rest more written replace c (List.mem_of_getLast? read))
    | some d =>
      rw [behind, Option.some_or] at read
      rw [ih (behind.trans read), Option.some_or]

/-- A pass over the result of earlier ones makes of it what it makes of its text. -/
theorem bytes_andThen_replaceAll (result : Buffer) :
    (result.andThen rule.replaceAll).bytes = rule.output result.bytes := by
  cases result with
  | shared source => exact bytes_replaceAll source
  | copied content =>
    have copied : (rule.replaceAll content.toList).isCopied = _ := isCopied_replaceAll _
    have bytes : (rule.replaceAll content.toList).bytes = _ := bytes_replaceAll _
    cases second : rule.replaceAll content.toList with
    | shared source =>
      rw [second, Buffer.isCopied_shared] at copied
      simp only [Buffer.andThen, second, Buffer.bytes_copied]
      exact (output_of_not_replaces copied.symm).symm
    | copied changed =>
      rw [second] at bytes
      simp only [Buffer.andThen, second]
      exact bytes

/-! ### Where a rule is asked -/

variable {b : Byte} {rest : Bytes} {more : Nat}

@[simp] theorem stops_nil (offset : Nat) : rule.stops offset [] = [] := by rw [stops]

theorem stops_of_keep (h : rule b rest = .keep more) (offset : Nat) :
    rule.stops offset (b :: rest) =
      (offset, b) :: rule.stops (offset + 1 + more) (rest.drop more) := by
  rw [stops, h]

theorem stops_of_replace {written : Bytes} (h : rule b rest = .replace more written)
    (offset : Nat) :
    rule.stops offset (b :: rest) =
      (offset, b) :: rule.stops (offset + 1 + more) (rest.drop more) := by
  rw [stops, h]

/-- The rule is asked at an index of the text and shown the byte there. -/
theorem read_of_mem_stops {offset place : Nat} {c : Byte} {text : Bytes}
    (mem : (place, c) ∈ rule.stops offset text) :
    ∃ index, place = offset + index ∧ text[index]? = some c := by
  fun_induction stops rule offset text with
  | case1 => cases mem
  | case2 offset b rest more ih =>
    rcases List.mem_cons.1 mem with here | later
    · cases here
      exact ⟨0, rfl, rfl⟩
    · obtain ⟨index, rfl, read⟩ := ih later
      refine ⟨more + index + 1, by omega, ?_⟩
      rw [List.getElem?_cons_succ, ← List.getElem?_drop]
      exact read

theorem pairwise_stops (offset : Nat) (text : Bytes) :
    (rule.stops offset text).Pairwise fun stop later => stop.1 < later.1 := by
  fun_induction stops rule offset text with
  | case1 => exact .nil
  | case2 offset b rest more ih =>
    refine .cons (fun (place, c) mem => ?_) ih
    obtain ⟨index, rfl, -⟩ := read_of_mem_stops mem
    show offset < offset + 1 + more + index
    omega

end MarkupText.Rule
