import MarkupText.Space
import MarkupText.Proofs.Space.Collapse

/-!
# Words and white space

A text is taken apart from word to word (`words_induction`). Each byte that separates words splits
the words of a text (`words_append`), so words that were joined are read back (`words_join`).
Collapsing a text that does not end with such a byte joins its words (`output_dropWhile`).
-/

set_option autoImplicit false

namespace MarkupText.Space

/-- The bytes that words are made of. -/
def isInk (b : Byte) : Bool := !b.isSpace

theorem isInk_iff {b : Byte} : isInk b ↔ ¬ b.isSpace := by
  simp only [isInk, Bool.not_eq_true', Bool.not_eq_true]

/-- Whether a text is one word. -/
structure IsWord (w : Bytes) : Prop where
  nonempty : w ≠ []
  ink : ∀ b ∈ w, isInk b

/-! ### From word to word -/

@[simp] theorem words_nil : words [] = [] := by rw [words]

theorem words_cons_of_isSpace {b : Byte} (space : b.isSpace) (rest : Bytes) :
    words (b :: rest) = words rest := by
  rw [words, if_pos space]

theorem words_append_of_isWord {w rest : Bytes} (word : IsWord w) (ends : Ends isInk rest) :
    words (w ++ rest) = w :: words rest := by
  obtain ⟨b, more, rfl⟩ := List.exists_cons_of_ne_nil word.nonempty
  obtain ⟨first, others⟩ := List.forall_mem_cons.1 word.ink
  have read : (more ++ rest).takeWhile (!·.isSpace) = more := takeWhile_append_of_ends others ends
  rw [List.cons_append, words, if_neg (isInk_iff.1 first)]
  simp only [read, List.drop_left]

theorem words_of_isWord {w : Bytes} (word : IsWord w) : words w = [w] := by
  have alone := words_append_of_isWord word ends_nil
  rwa [List.append_nil, words_nil] at alone

/-- A text that is not empty begins with a byte that separates words, or with a word and what ends
it. -/
@[elab_as_elim]
theorem words_induction {motive : Bytes → Prop} (text : Bytes) (nil : motive [])
    (space : ∀ b rest, b.isSpace → motive rest → motive (b :: rest))
    (word : ∀ w rest, IsWord w → Ends isInk rest → motive rest → motive (w ++ rest)) :
    motive text := by
  induction size : text.length using Nat.strongRecOn generalizing text with
  | ind n ih =>
    cases text with
    | nil => exact nil
    | cons b rest =>
      subst size
      by_cases blank : b.isSpace
      · exact space b rest blank (ih _ (Nat.lt_succ_self _) rest rfl)
      · obtain ⟨more, behind, rfl, inside, ends⟩ := exists_run isInk rest
        have isWord : IsWord (b :: more) :=
          ⟨List.cons_ne_nil b more, List.forall_mem_cons.2 ⟨isInk_iff.2 blank, inside⟩⟩
        refine word (b :: more) behind isWord ends (ih _ ?_ behind rfl)
        rw [List.length_cons, List.length_append]
        omega

theorem words_eq_nil {text : Bytes} (none : words text = []) : ∀ b ∈ text, b.isSpace := by
  induction text using words_induction with
  | nil => exact List.forall_mem_nil _
  | space b rest space ih =>
    rw [words_cons_of_isSpace space] at none
    exact List.forall_mem_cons.2 ⟨space, ih none⟩
  | word w rest word ends ih =>
    rw [words_append_of_isWord word ends] at none
    cases none

theorem isWord_of_mem_words {text w : Bytes} (mem : w ∈ words text) : IsWord w := by
  induction text using words_induction with
  | nil =>
    rw [words_nil] at mem
    cases mem
  | space b rest space ih =>
    rw [words_cons_of_isSpace space] at mem
    exact ih mem
  | word v rest word ends ih =>
    rw [words_append_of_isWord word ends] at mem
    rcases List.mem_cons.1 mem with rfl | later
    · exact word
    · exact ih later

/-! ### What separates words -/

theorem isSpace_of_ends {b : Byte} {rest : Bytes} (ends : Ends isInk (b :: rest)) : b.isSpace :=
  not_not.1 fun other => ends b rfl (isInk_iff.2 other)

theorem ends_isInk_cons {b : Byte} (space : b.isSpace) (rest : Bytes) : Ends isInk (b :: rest) :=
  ends_cons (fun ink => isInk_iff.1 ink space) rest

/-- The words on both sides of a byte that separates them are those of the whole text. -/
theorem words_append {b : Byte} (space : b.isSpace) (text rest : Bytes) :
    words (text ++ b :: rest) = words text ++ words rest := by
  induction text using words_induction with
  | nil => rw [List.nil_append, words_cons_of_isSpace space, words_nil, List.nil_append]
  | space c behind blank ih =>
    rw [List.cons_append, words_cons_of_isSpace blank, words_cons_of_isSpace blank, ih]
  | word w behind word ends ih =>
    have later : Ends isInk (behind ++ b :: rest) := by
      cases behind with
      | nil => exact ends_isInk_cons space rest
      | cons next behind => exact ends_cons (ends next rfl) _
    rw [List.append_assoc, words_append_of_isWord word later, words_append_of_isWord word ends, ih,
      List.cons_append]

/-- How long the run is that separates the words does not matter. -/
theorem words_append_run {run : Bytes} (nonempty : run ≠ []) (inside : ∀ b ∈ run, b.isSpace)
    (text rest : Bytes) : words (text ++ run ++ rest) = words text ++ words rest := by
  obtain ⟨b, more, rfl⟩ := List.exists_cons_of_ne_nil nonempty
  obtain ⟨space, others⟩ := List.forall_mem_cons.1 inside
  have skipped : words (more ++ rest) = words rest := by
    induction more with
    | nil => rfl
    | cons c more ih =>
      obtain ⟨blank, fewer⟩ := List.forall_mem_cons.1 others
      rw [List.cons_append, words_cons_of_isSpace blank]
      exact ih (List.cons_ne_nil b more) (List.forall_mem_cons.2 ⟨space, fewer⟩) fewer
  rw [List.append_assoc, List.cons_append, words_append space, skipped]

/-! ### Joined words -/

theorem join_cons {separator : Byte} (w : Bytes) {ws : List Bytes} (nonempty : ws ≠ []) :
    join separator (w :: ws) = w ++ separator :: join separator ws := by
  obtain ⟨v, vs, rfl⟩ := List.exists_cons_of_ne_nil nonempty
  rfl

theorem join_singleton (separator : Byte) (w : Bytes) : join separator [w] = w :=
  List.append_nil w

/-- Words that were joined are read back, so joining loses nothing. -/
theorem words_join {separator : Byte} (space : separator.isSpace) {ws : List Bytes}
    (all : ∀ w ∈ ws, IsWord w) : words (join separator ws) = ws := by
  induction ws with
  | nil => exact words_nil
  | cons w ws ih =>
    obtain ⟨word, others⟩ := List.forall_mem_cons.1 all
    cases ws with
    | nil => rw [join_singleton, words_of_isWord word]
    | cons v vs =>
      rw [join_cons w (List.cons_ne_nil v vs), words_append space, words_of_isWord word, ih others]
      rfl

/-- Collapsing joins the words of a text that does not end with white space, once the white space
at its front is taken off. -/
theorem output_dropWhile {separator : Byte} {text : Bytes}
    (last : ∀ b, text.getLast? = some b → ¬ b.isSpace) :
    (collapseRule separator).output (text.dropWhile Byte.isSpace) =
      join separator (words text) := by
  induction text using words_induction with
  | nil =>
    rw [words_nil]
    exact Rule.output_nil
  | space b rest space ih =>
    rw [List.dropWhile_cons_of_pos space, words_cons_of_isSpace space]
    refine ih fun c read => last c ?_
    rw [List.getLast?_cons, read]
    rfl
  | word w rest word ends ih =>
    have ink : ∀ b ∈ w, ¬ b.isSpace := fun b mem => isInk_iff.1 (word.ink b mem)
    have stays : (w ++ rest).dropWhile Byte.isSpace = w ++ rest := by
      obtain ⟨b, more, rfl⟩ := List.exists_cons_of_ne_nil word.nonempty
      exact List.dropWhile_cons_of_neg (ink b List.mem_cons_self)
    rw [stays, output_append_of_ink ink, words_append_of_isWord word ends]
    cases rest with
    | nil => rw [words_nil, join_singleton, Rule.output_nil, List.append_nil]
    | cons b rest =>
      have space := isSpace_of_ends ends
      have behind : ∀ c, (b :: rest).getLast? = some c → ¬ c.isSpace := by
        intro c read
        apply last c
        rw [List.getLast?_append, read]
        rfl
      have others : words (b :: rest) ≠ [] := by
        intro none
        have read := List.getLast?_eq_some_getLast (List.cons_ne_nil b rest)
        exact behind _ read (words_eq_nil none _ (List.getLast_mem _))
      have joined := ih behind
      rw [List.dropWhile_cons_of_pos space] at joined
      rw [join_cons w others, output_cons_of_isSpace space, joined]

end MarkupText.Space
