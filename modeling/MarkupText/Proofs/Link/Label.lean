import MarkupText.Fold.Basic
import MarkupText.Proofs.Fold.Text
import MarkupText.Proofs.Space.Trim

/-!
# What link labels have in common

The key of a label is its folded words with a space between each two of them (`key_eq_join`). No
word has a space in it, so two labels have the same key exactly if their folded words are the same
(`key_eq_key_iff`). White space shows in the key only by what it separates, and the case of ASCII
not at all.
-/

set_option autoImplicit false

namespace MarkupText.Link.Label

/-- The words of a label, without the white space at its ends. -/
def words (label : Bytes) : List Bytes := Space.words (Space.trim label)

/-- The words of a label, each of them folded by itself. -/
def foldedWords (label : Bytes) : List Bytes := (words label).map fun w => (Fold.fold w).bytes

theorem foldedWords_eq (label : Bytes) : foldedWords label = (words label).map Fold.rule.output :=
  List.map_congr_left fun w _ => Rule.bytes_replaceAll w

theorem isWord_of_mem_foldedWords {label : Bytes} :
    ∀ w ∈ foldedWords label, Space.IsWord w := by
  intro w mem
  rw [foldedWords_eq] at mem
  obtain ⟨v, inside, rfl⟩ := List.mem_map.1 mem
  exact Fold.isWord_output (Space.isWord_of_mem_words inside)

/-! ### The key -/

theorem key_eq_output (label : Bytes) : key label =
    (Space.collapseRule Byte.space).output (Fold.rule.output (Space.trim label)) := by
  unfold key Space.collapse Fold.fold
  rw [Rule.bytes_replaceAll, Rule.bytes_replaceAll]
  rfl

/-- Folding the trimmed label leaves no white space at its ends, so collapsing joins its words. -/
theorem key_eq_join (label : Bytes) : key label = Space.join Byte.space (foldedWords label) := by
  have tight := Fold.isTight_output (Space.isTight_trim label)
  have begins : Ends Byte.isSpace (Fold.rule.output (Space.trim label)) :=
    fun b read space => tight.first b read (Space.mem_trimmed_of_isSpace space)
  have last : ∀ b, (Fold.rule.output (Space.trim label)).getLast? = some b → ¬ b.isSpace :=
    fun b read space => tight.last b read (Space.mem_trimmed_of_isSpace space)
  have stays := dropWhile_append_of_ends (List.forall_mem_nil _) begins
  calc key label
      = (Space.collapseRule Byte.space).output (Fold.rule.output (Space.trim label)) :=
        key_eq_output label
    _ = (Space.collapseRule Byte.space).output
          ((Fold.rule.output (Space.trim label)).dropWhile Byte.isSpace) :=
        congrArg _ stays.symm
    _ = Space.join Byte.space (Space.words (Fold.rule.output (Space.trim label))) :=
        Space.output_dropWhile last
    _ = Space.join Byte.space (foldedWords label) := by
        rw [Fold.words_output, foldedWords_eq, words]

theorem foldedWords_eq_of_key_eq {label other : Bytes} (same : key label = key other) :
    foldedWords label = foldedWords other := by
  have space : Byte.space.isSpace := by decide
  rw [key_eq_join, key_eq_join] at same
  have read := congrArg Space.words same
  rwa [Space.words_join space isWord_of_mem_foldedWords,
    Space.words_join space isWord_of_mem_foldedWords] at read

/-! ### What does not matter -/

theorem key_append_run {run gap : Bytes} (separates : run ≠ []) (parts : gap ≠ [])
    (inRun : ∀ b ∈ run, b.isSpace) (inGap : ∀ b ∈ gap, b.isSpace) (front behind : Bytes) :
    key (front ++ run ++ behind) = key (front ++ gap ++ behind) := by
  have same : words (front ++ run ++ behind) = words (front ++ gap ++ behind) := by
    unfold words
    rcases Space.trim_append_run front behind with ⟨core, alike⟩ | ⟨left, right, inner⟩
    · rw [alike run fun b mem => Space.mem_trimmed_of_isSpace (inRun b mem),
        alike gap fun b mem => Space.mem_trimmed_of_isSpace (inGap b mem)]
    · rw [inner, inner, Space.words_append_run separates inRun, Space.words_append_run parts inGap]
  rw [key_eq_join, key_eq_join, foldedWords, foldedWords, same]

theorem key_map_toLower (label : Bytes) : key (label.map Byte.toLower) = key label := by
  rw [key_eq_output, key_eq_output, Space.trim_map_toLower, Fold.output_map_toLower]

/-- A label's key is its folded words with a space between each two of them, and labels have the
same key exactly if they have the same folded words. White space around a label, which bytes a run
of white space inside it is made of and how many, and the case of ASCII do not matter. -/
theorem key_eq_key_iff (label other : Bytes) :
    key label = Space.join Byte.space (foldedWords label) ∧
    (key label = key other ↔ foldedWords label = foldedWords other) ∧
    (∀ front behind : Bytes, (∀ b ∈ front, b ∈ Space.trimmed) → (∀ b ∈ behind, b ∈ Space.trimmed) →
      key (front ++ label ++ behind) = key label) ∧
    (∀ run gap : Bytes, run ≠ [] → gap ≠ [] → (∀ b ∈ run, b.isSpace) → (∀ b ∈ gap, b.isSpace) →
      key (label ++ run ++ other) = key (label ++ gap ++ other)) ∧
    (label.map Byte.toLower = other.map Byte.toLower → key label = key other) := by
  refine ⟨key_eq_join label, ⟨foldedWords_eq_of_key_eq, fun same => ?_⟩,
    fun front behind inFront inBehind => ?_,
    fun run gap separates parts inRun inGap => key_append_run separates parts inRun inGap _ _,
    fun alike => ?_⟩
  · rw [key_eq_join, key_eq_join, same]
  · rw [key_eq_output, key_eq_output, Space.trim_append inFront inBehind]
  · rw [← key_map_toLower label, ← key_map_toLower other, alike]

/-- Two spellings of a street, one of them with a letter that folds to two, in and around white
space of several kinds. -/
theorem key_eq_key_iff_street :
    let label := utf8 "Lange\t\r\nStraße"
    let other := utf8 "LANGE STRASSE"
    key label = key other ∧
      key (utf8 "\x0B " ++ label ++ utf8 "\x0C\n") = key label ∧
      key (label ++ utf8 "\t " ++ other) = key (label ++ utf8 "\n" ++ other) ∧
      key (utf8 "Lange") = key (utf8 "lANGE") := by
  intro label other
  have folded : foldedWords label = foldedWords other := by decide +kernel
  obtain ⟨-, same, around, inside, -⟩ := key_eq_key_iff label other
  obtain ⟨-, -, -, -, alike⟩ := key_eq_key_iff (utf8 "Lange") (utf8 "lANGE")
  refine ⟨same.2 folded, around _ _ ?_ ?_, inside _ _ ?_ ?_ ?_ ?_, alike ?_⟩
  all_goals decide +kernel

end MarkupText.Link.Label
