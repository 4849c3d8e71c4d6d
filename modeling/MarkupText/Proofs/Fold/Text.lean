import MarkupText.Proofs.Fold.Folded
import MarkupText.Proofs.Space.Trim
import MarkupText.Proofs.Space.Words

/-!
# Folded texts

From stretch to stretch, folding loses nothing and writes what is not above the space only where it
stood already (`FoldsTo`). So folding and trimming can change places (`trim_output`), and the words
of a folded text are the folded words (`words_output`). Case in ASCII does not matter
(`output_map_toLower`).
-/

set_option autoImplicit false

namespace MarkupText.Fold

open Utf8

/-! ### From stretch to stretch -/

theorem lt_of_mem_encode {d : Char} (ink : 0x20 < d.toNat) : ∀ b ∈ encode d, 0x20 < b.toNat := by
  intro b mem
  rcases encode_ascii_or_high d with ⟨c, encoded, -, number⟩ | ⟨-, high⟩
  · rw [encoded] at mem
    obtain rfl := List.mem_singleton.1 mem
    omega
  · have notAscii := high b mem
    simp only [Byte.isAscii, decide_eq_true_eq, UInt8.lt_iff_toNat_lt,
      UInt8.reduceToNat] at notAscii
    omega

/-- What becomes of a stretch of text. -/
structure FoldsTo (span written : Bytes) : Prop where
  span_ne : span ≠ []
  written_ne : written ≠ []
  low : ∀ b ∈ written, b.toNat ≤ 0x20 → written = span

theorem foldsTo_encode (c : Char) : FoldsTo (encode c) (encodeAll (foldChar c)) where
  span_ne := encode_ne_nil c
  written_ne := by
    obtain ⟨d, others, folds⟩ := List.exists_cons_of_ne_nil (foldChar_ne_nil c)
    rw [folds, encodeAll_cons]
    exact List.append_ne_nil_of_left_ne_nil (encode_ne_nil d) _
  low b mem low := by
    cases known : folding? c with
    | none => rw [foldChar, known, Option.getD_none, encodeAll_cons, encodeAll_nil, List.append_nil]
    | some folded =>
      rw [foldChar, known, Option.getD_some] at mem
      obtain ⟨d, inside, written⟩ := List.mem_flatMap.1 mem
      have ink := lt_of_mem_encode ((folding?_sound known).ink d inside) b written
      omega

theorem foldsTo_broken (b : Byte) (read : Bytes) : FoldsTo (b :: read) (b :: read) where
  span_ne := List.cons_ne_nil b read
  written_ne := List.cons_ne_nil b read
  low _ _ _ := rfl

/-- A text that is not empty begins with a stretch that is folded before the rest is. -/
@[elab_as_elim]
theorem output_induction {motive : Bytes → Bytes → Prop} (text : Bytes) (nil : motive [] [])
    (stretch : ∀ span written rest, FoldsTo span written → motive rest (rule.output rest) →
      motive (span ++ rest) (written ++ rule.output rest)) : motive text (rule.output text) := by
  induction text using text_induction with
  | nil =>
    rw [Rule.output_nil]
    exact nil
  | character c rest ih =>
    rw [output_encode]
    exact stretch _ _ rest (foldsTo_encode c) ih
  | broken b read rest broken ih =>
    rw [output_broken broken]
    exact stretch (b :: read) (b :: read) rest (foldsTo_broken b read) ih

theorem output_ne_nil {text : Bytes} (h : text ≠ []) : rule.output text ≠ [] := by
  induction text using output_induction with
  | nil => exact h
  | stretch span written rest folds ih =>
    exact List.append_ne_nil_of_left_ne_nil folds.written_ne _

/-! ### What is not above the space -/

theorem mem_of_mem_output {text : Bytes} {b : Byte} (low : b.toNat ≤ 0x20)
    (mem : b ∈ rule.output text) : b ∈ text := by
  induction text using output_induction with
  | nil => exact mem
  | stretch span written rest folds ih =>
    rcases List.mem_append.1 mem with here | later
    · exact List.mem_append_left rest (folds.low b here low ▸ here)
    · exact List.mem_append_right span (ih later)

theorem head?_of_head?_output {text : Bytes} {b : Byte} (low : b.toNat ≤ 0x20)
    (read : (rule.output text).head? = some b) : text.head? = some b := by
  induction text using output_induction with
  | nil => exact read
  | stretch span written rest folds ih =>
    rw [List.head?_append_of_ne_nil _ folds.written_ne] at read
    rw [List.head?_append_of_ne_nil _ folds.span_ne]
    exact folds.low b (List.mem_of_head? read) low ▸ read

theorem getLast?_of_getLast?_output {text : Bytes} {b : Byte} (low : b.toNat ≤ 0x20)
    (read : (rule.output text).getLast? = some b) : text.getLast? = some b := by
  induction text using output_induction with
  | nil => exact read
  | stretch span written rest folds ih =>
    by_cases last : rest = []
    · rw [last, Rule.output_nil, List.append_nil] at read
      rw [last, List.append_nil]
      exact folds.low b (List.mem_of_getLast? read) low ▸ read
    · rw [List.getLast?_append_of_ne_nil _ (output_ne_nil last)] at read
      rw [List.getLast?_append_of_ne_nil _ last]
      exact ih read

/-! ### White space -/

/-- Trimming before folding leaves nothing to trim behind it. -/
theorem isTight_output {text : Bytes} (tight : Space.IsTight Space.trimmed text) :
    Space.IsTight Space.trimmed (rule.output text) where
  first b read mem := tight.first b (head?_of_head?_output (Space.le_of_mem_trimmed mem) read) mem
  last b read mem :=
    tight.last b (getLast?_of_getLast?_output (Space.le_of_mem_trimmed mem) read) mem

theorem output_cons_of_isAscii {b : Byte} (ascii : b.isAscii) (rest : Bytes) :
    rule.output (b :: rest) = b.toLower :: rule.output rest := by
  have decided : rule b rest = if b.isUpper then .replace 0 [b.toLower] else .keep 0 := by
    rw [rule, if_pos ascii]
  by_cases upper : b.isUpper
  · rw [if_pos upper] at decided
    rw [Rule.output_of_replace decided]
    rfl
  · rw [if_neg upper] at decided
    rw [Rule.output_of_keep decided, Byte.toLower, if_neg upper]
    rfl

/-- White space is passed as it stands. -/
theorem output_append_of_trimmed {span : Bytes} (inside : ∀ b ∈ span, b ∈ Space.trimmed)
    (rest : Bytes) : rule.output (span ++ rest) = span ++ rule.output rest := by
  induction span with
  | nil => rfl
  | cons b span ih =>
    obtain ⟨first, others⟩ := List.forall_mem_cons.1 inside
    rw [List.cons_append, output_cons_of_isAscii (Space.isAscii_of_mem_trimmed first),
      Space.toLower_of_mem_trimmed first, ih others, List.cons_append]

theorem output_cons_of_isSpace {b : Byte} (space : b.isSpace) (rest : Bytes) :
    rule.output (b :: rest) = b :: rule.output rest :=
  output_append_of_trimmed (List.forall_mem_singleton.2 (Space.mem_trimmed_of_isSpace space)) rest

/-- Trimming and folding can be done in either order. -/
theorem trim_output (text : Bytes) :
    Space.trim (rule.output text) = rule.output (Space.trim text) := by
  obtain ⟨front, behind, cut, inFront, inBehind⟩ := Space.trim_cut text
  have ends : Ends Byte.isContinuation behind := by
    cases behind with
    | nil => exact ends_nil
    | cons b behind => exact ends_of_isAscii (Space.isAscii_of_mem_trimmed (inBehind b (.head _))) _
  have stays : rule.output behind = behind := by
    have passed := output_append_of_trimmed inBehind []
    rwa [List.append_nil, Rule.output_nil, List.append_nil] at passed
  have whole : rule.output text = front ++ rule.output (Space.trim text) ++ behind := by
    conv_lhs => rw [cut]
    rw [List.append_assoc, output_append_of_trimmed inFront, output_append ends, stays,
      List.append_assoc]
  rw [whole]
  exact Space.trim_eq (isTight_output (Space.isTight_trim text)) inFront inBehind

/-! ### Words -/

/-- A folded word is a word. -/
theorem isWord_output {w : Bytes} (word : Space.IsWord w) : Space.IsWord (rule.output w) := by
  refine ⟨output_ne_nil word.nonempty, fun b mem => Space.isInk_iff.2 fun space => ?_⟩
  have low := Space.le_of_mem_trimmed (Space.mem_trimmed_of_isSpace space)
  exact Space.isInk_iff.1 (word.ink b (mem_of_mem_output low mem)) space

/-- The words of a folded text are the folded words of the text. -/
theorem words_output (text : Bytes) :
    Space.words (rule.output text) = (Space.words text).map rule.output := by
  induction text using Space.words_induction with
  | nil => rw [Rule.output_nil, Space.words_nil, List.map_nil]
  | space b rest space ih =>
    rw [output_cons_of_isSpace space, Space.words_cons_of_isSpace space,
      Space.words_cons_of_isSpace space, ih]
  | word w rest word ends ih =>
    rw [Space.words_append_of_isWord word ends, List.map_cons, ← ih]
    cases rest with
    | nil => rw [List.append_nil, Rule.output_nil, Space.words_nil,
        Space.words_of_isWord (isWord_output word)]
    | cons b rest =>
      have space := Space.isSpace_of_ends ends
      rw [output_append (ends_of_isAscii (Space.isAscii_of_isSpace space) rest),
        output_cons_of_isSpace space, Space.words_append space,
        Space.words_of_isWord (isWord_output word), Space.words_cons_of_isSpace space]
      rfl

/-! ### Case -/

theorem map_toLower_of_not_isAscii {span : Bytes} (high : ∀ b ∈ span, ¬ b.isAscii) :
    span.map Byte.toLower = span := by
  calc span.map Byte.toLower = span.map id :=
        List.map_congr_left fun b mem => Byte.toLower_of_not_isAscii (high b mem)
    _ = span := List.map_id span

/-- Texts that differ in the case of ASCII only are folded alike. -/
theorem output_map_toLower (text : Bytes) :
    rule.output (text.map Byte.toLower) = rule.output text := by
  induction size : text.length using Nat.strongRecOn generalizing text with
  | ind n ih =>
    obtain ⟨span, rest, rfl, high, ends⟩ := exists_run (fun b => !b.isAscii) text
    have same : span.map Byte.toLower = span :=
      map_toLower_of_not_isAscii fun b mem => by simpa using high b mem
    cases rest with
    | nil => rw [List.append_nil, same]
    | cons b rest =>
      have ascii : b.isAscii := by simpa using ends b rfl
      have lower : b.toLower.isAscii := Byte.isAscii_toLower ascii
      have later : rest.length < n := by
        rw [List.length_append, List.length_cons] at size
        omega
      rw [List.map_append, List.map_cons, same, output_append (ends_of_isAscii lower _),
        output_append (ends_of_isAscii ascii _), output_cons_of_isAscii lower,
        output_cons_of_isAscii ascii, Byte.toLower_toLower, ih _ later rest rfl]

end MarkupText.Fold
